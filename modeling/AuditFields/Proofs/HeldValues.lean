/-
What wire values hold.  A codec of single values looks for one thing in a wire value.  It
recognises just the wire values that hold a value of it, and reads that value; all other
wire values it reads as an absent one.
-/
import AuditFields.Proofs.ColorGrammar
import AuditFields.Proofs.SnowflakeReaders

namespace AuditFields

namespace Json

theorem asBool?_eq_some_iff {raw : Json} {value : Bool} :
    raw.asBool? = some value ↔ raw = .bool value := by
  cases raw <;> simp [asBool?]

theorem asString?_eq_some_iff {raw : Json} {s : String} :
    raw.asString? = some s ↔ raw = .string s := by
  cases raw <;> simp [asString?]

theorem asObject?_eq_some_iff {raw : Json} {members : WireObject} :
    raw.asObject? = some members ↔ raw = .object members := by
  cases raw <;> simp [asObject?]

theorem asInt?_eq_some_iff {raw : Json} {n : Int} :
    raw.asInt? = some n ↔ ∃ range, raw = .ofInt n range := by
  constructor
  · intro hn
    cases raw with
    | number number =>
        cases number with
        | int value range =>
            obtain rfl : value = n := Option.some.inj hn
            exact ⟨range, rfl⟩
        | float => contradiction
    | null | bool | string | array | object => contradiction
  · rintro ⟨range, rfl⟩
    rfl

theorem asNat?_eq_some_iff {raw : Json} {n : Nat} :
    raw.asNat? = some n ↔ ∃ range, raw = .ofInt n range := by
  rw [← asInt?_eq_some_iff]
  unfold asNat?
  split
  · rename_i m hm
    rw [hm, Option.some.injEq, Option.some.injEq]
    exact Int.ofNat_inj.symm
  · rename_i hnot
    exact iff_of_false nofun fun hn => hnot n hn

theorem asInt64?_eq_some_iff {raw : Json} {n : Int64} :
    raw.asInt64? = some n ↔ raw = .ofInt64 n := by
  constructor
  · intro hn
    unfold asInt64? at hn
    split at hn
    · rename_i value hvalue
      obtain ⟨range, rfl⟩ := asInt?_eq_some_iff.1 hvalue
      split at hn
      · rename_i hlt
        have htoInt : (Int64.ofInt value).toInt = value := Int64.toInt_ofInt_of_le range.1 hlt
        obtain rfl := Option.some.inj hn
        simp only [ofInt64, htoInt]
      · contradiction
    · contradiction
  · rintro rfl
    exact asInt64?_ofInt64 n

/-- The wire values that hold a number of 64 bits: the number itself, or decimal digits of
it after at most one plus sign. -/
def HoldsNumber (raw : Json) (n : UInt64) : Prop :=
  raw = .ofUInt64 n ∨
    ∃ s, raw = .string s ∧ Text.Denotes 10 (Text.withoutPlus s.toList) n.toNat

theorem asUInt64?_eq_some_iff {raw : Json} {n : UInt64} :
    raw.asUInt64? = some n ↔ raw.HoldsNumber n := by
  constructor
  · intro hn
    unfold asUInt64? at hn
    split at hn
    · rename_i s
      split at hn
      · rename_i m hm
        obtain ⟨hdenotes, hle⟩ := (Text.readNatural_eq_ok_iff (by decide)).1 hm
        obtain rfl := Option.some.inj hn
        refine Or.inr ⟨s, rfl, ?_⟩
        rwa [UInt64.toNat_ofNat_of_lt' (Nat.lt_succ_of_le hle)]
      · contradiction
    · obtain ⟨m, hm, rfl⟩ := Option.map_eq_some_iff.1 hn
      obtain ⟨range, rfl⟩ := asNat?_eq_some_iff.1 hm
      have hlt : m < UInt64.size := Int.ofNat_lt.1 range.2
      left
      simp only [ofUInt64, UInt64.toNat_ofNat_of_lt' hlt]
  · rintro (rfl | ⟨s, rfl, hdenotes⟩)
    · exact asUInt64?_ofUInt64 n
    · have hread : Text.readUInt64 s.toList = .ok n.toNat :=
        (Text.readNatural_eq_ok_iff (by decide)).2 ⟨hdenotes, Nat.le_of_lt_succ n.toNat_lt⟩
      simp only [asUInt64?, hread, UInt64.ofNat_toNat]

theorem asColor?_eq_some_iff {raw : Json} {color : Color} :
    raw.asColor? = some color ↔ raw = .ofUInt32 color.toUInt32 := by
  constructor
  · intro hcolor
    obtain ⟨n, hn, hfound⟩ := Option.bind_eq_some_iff.1 hcolor
    obtain rfl := Color.ofNat?_eq_some_iff.1 hfound
    obtain ⟨range, rfl⟩ := asNat?_eq_some_iff.1 hn
    simp only [ofUInt32, Color.toNat_toUInt32]
  · rintro rfl
    exact color.asColor?_ofUInt32

theorem asEnumValue?_eq_some_iff {kind : EnumKind} {raw : Json} {value : EnumValue kind} :
    raw.asEnumValue? = some value ↔ ∃ code, raw = .ofUInt8 code ∧ .ofCode code = value := by
  constructor
  · intro hvalue
    unfold asEnumValue? at hvalue
    split at hvalue
    · rename_i n hn
      split at hvalue
      · rename_i hlt
        obtain ⟨range, rfl⟩ := asNat?_eq_some_iff.1 hn
        refine ⟨UInt8.ofNat n, ?_, Option.some.inj hvalue⟩
        simp only [ofUInt8, UInt8.toNat_ofNat_of_lt' hlt]
      · contradiction
    · contradiction
  · rintro ⟨code, rfl, rfl⟩
    have hlt := code.toNat_lt
    simp [asEnumValue?, ofUInt8, hlt]

/-- Text that a reader takes. -/
theorem bind_toOption_eq_some_iff {ε α : Type} {read : String → Except ε α} {raw : Json}
    {value : α} :
    (raw.asString?.bind fun s => (read s).toOption) = some value ↔
      ∃ s, raw = .string s ∧ read s = .ok value := by
  simp only [Option.bind_eq_some_iff, asString?_eq_some_iff, toOption_eq_some_iff]

end Json

namespace ScalarCodec

/-- The wire values that hold a value of a codec.  Unset text and unset objects are held by
empty ones, and an unset identifier by zero. -/
def Holds : (codec : ScalarCodec) → Json → codec.Value → Prop
  | .bool _, raw, value => raw = .bool value
  | .int _ _, raw, value => raw = .ofInt64 value
  | .text _ _ _, raw, value => raw = .string value
  | .optionalText _, raw, value => raw = .string (value.getD "") ∧ value ≠ some ""
  | .color, raw, value => raw = .ofUInt32 value.toUInt32
  | .id _, raw, value => raw.HoldsNumber (Snowflake.number value)
  | .flags _, raw, value => raw.HoldsNumber value.bits
  | .enum _ _, raw, value => ∃ code, raw = .ofUInt8 code ∧ .ofCode code = value
  | .timestamp, raw, value =>
      ∃ t, (∃ s, raw = .string s ∧ Timestamp.ofText s = .ok t) ∧ some t = value
  | .imageHash, raw, value =>
      ∃ hash, (∃ s, raw = .string s ∧ ImageHash.ofText s = .ok hash) ∧ some hash = value
  | .object, raw, value => raw = .object (value.getD []) ∧ value ≠ some []

/-- A codec that looks for one thing in a wire value.  It recognises the wire values in
which the thing is found, and its value is made of what was found, if anything was. -/
structure Seeks {α : Type} (codec : ScalarCodec) (find? : Json → Option α)
    (make : Option α → codec.Value) : Prop where
  matchesWire_eq : ∀ raw, codec.matchesWire raw = (find? raw).isSome
  decode_eq : ∀ raw, codec.decode raw = make (raw.bind find?)
  holds_iff : ∀ raw value,
    codec.Holds raw value ↔ ∃ found, find? raw = some found ∧ make (some found) = value

/-- A codec that takes what it finds as it is, and has a default for the rest. -/
theorem Seeks.of_default {codec : ScalarCodec} {find? : Json → Option codec.Value}
    {default : codec.Value} (hmatches : ∀ raw, codec.matchesWire raw = (find? raw).isSome)
    (hdecode : ∀ raw, codec.decode raw = (raw.bind find?).getD default)
    (hholds : ∀ raw value, find? raw = some value ↔ codec.Holds raw value) :
    codec.Seeks find? fun found => found.getD default where
  matchesWire_eq := hmatches
  decode_eq := hdecode
  holds_iff := by
    intro raw value
    simp only [← hholds, Option.getD_some, exists_eq_right]

/-- Where an empty one counts as unset, what is found is the value, or the empty one if the
value is unset. -/
theorem exists_filter_ne_iff {α : Type} [DecidableEq α] {IsFound : α → Prop} {empty : α}
    {value : Option α} :
    (∃ found, IsFound found ∧ (some found).filter (fun a => a ≠ empty) = value) ↔
      IsFound (value.getD empty) ∧ value ≠ some empty := by
  constructor
  · rintro ⟨found, hfound, rfl⟩
    by_cases hempty : found = empty
    · simpa [Option.filter_some, hempty] using hempty ▸ hfound
    · simpa [Option.filter_some, hempty] using hfound
  · rintro ⟨hfound, hne⟩
    refine ⟨_, hfound, ?_⟩
    cases value with
    | none => simp
    | some kept => simpa [Option.filter_some] using hne

/-- Every codec of single values looks for one thing, and so what it does not recognise
cannot matter to what it reads. -/
theorem exists_seeks (codec : ScalarCodec) :
    ∃ (α : Type) (find? : Json → Option α) (make : Option α → codec.Value),
      codec.Seeks find? make := by
  cases codec with
  | bool =>
      exact ⟨_, _, _, .of_default (fun _ => rfl) (fun _ => rfl) fun _ _ =>
        Json.asBool?_eq_some_iff⟩
  | int =>
      exact ⟨_, _, _, .of_default (fun _ => rfl) (fun _ => rfl) fun _ _ =>
        Json.asInt64?_eq_some_iff⟩
  | text =>
      exact ⟨_, _, _, .of_default (fun _ => rfl) (fun _ => rfl) fun _ _ =>
        Json.asString?_eq_some_iff⟩
  | color =>
      exact ⟨_, _, _, .of_default (fun _ => rfl) (fun _ => rfl) fun _ _ =>
        Json.asColor?_eq_some_iff⟩
  | enum =>
      exact ⟨_, _, _, .of_default (fun _ => rfl) (fun _ => rfl) fun _ _ =>
        Json.asEnumValue?_eq_some_iff⟩
  | optionalText =>
      refine ⟨_, Json.asString?, fun found => found.filter fun s => s ≠ "", fun _ => rfl,
        fun _ => rfl, ?_⟩
      intro raw value
      simp only [Holds, Json.asString?_eq_some_iff, exists_filter_ne_iff]
  | id space =>
      refine ⟨_, Json.asUInt64?, fun found => found.bind Snowflake.ofUInt64?, fun _ => rfl,
        fun _ => rfl, ?_⟩
      intro raw value
      simp only [Holds, Json.asUInt64?_eq_some_iff, Option.bind_some, Snowflake.ofUInt64?_eq_iff,
        exists_eq_right]
  | flags =>
      refine ⟨_, Json.asUInt64?, fun found => ⟨found.getD 0⟩, fun _ => rfl, fun _ => rfl, ?_⟩
      intro raw value
      simp only [Holds, Json.asUInt64?_eq_some_iff, Option.getD_some]
      constructor
      · exact fun hraw => ⟨value.bits, hraw, rfl⟩
      · rintro ⟨bits, hraw, rfl⟩
        exact hraw
  | timestamp =>
      refine ⟨_, Json.asTimestamp?, fun found => found, fun _ => rfl, fun _ => rfl, ?_⟩
      intro raw value
      simp only [Holds, Json.asTimestamp?, Json.bind_toOption_eq_some_iff]
  | imageHash =>
      refine ⟨_, Json.asImageHash?, fun found => found, fun _ => rfl, fun _ => rfl, ?_⟩
      intro raw value
      simp only [Holds, Json.asImageHash?, Json.bind_toOption_eq_some_iff]
  | object =>
      refine ⟨_, Json.asObject?, fun found => found.filter fun members => members ≠ [],
        fun _ => rfl, fun _ => rfl, ?_⟩
      intro raw value
      simp only [Holds, Json.asObject?_eq_some_iff, exists_filter_ne_iff]

theorem matchesWire_iff {codec : ScalarCodec} {raw : Json} :
    codec.matchesWire raw = true ↔ ∃ value, codec.Holds raw value := by
  obtain ⟨α, find?, make, hseeks⟩ := codec.exists_seeks
  simp only [hseeks.matchesWire_eq, hseeks.holds_iff, Option.isSome_iff_exists]
  constructor
  · rintro ⟨found, hfound⟩
    exact ⟨make (some found), found, hfound, rfl⟩
  · rintro ⟨value, found, hfound, -⟩
    exact ⟨found, hfound⟩

/-- The value that is held is read. -/
theorem decode_of_holds {codec : ScalarCodec} {raw : Json} {value : codec.Value}
    (hvalue : codec.Holds raw value) : codec.decode (some raw) = value := by
  obtain ⟨α, find?, make, hseeks⟩ := codec.exists_seeks
  obtain ⟨found, hfound, rfl⟩ := (hseeks.holds_iff raw value).1 hvalue
  rw [hseeks.decode_eq, Option.bind_some, hfound]

/-- What is not recognised is read as if it were absent. -/
theorem decode_of_matchesWire_eq_false {codec : ScalarCodec} {raw : Json}
    (hraw : codec.matchesWire raw = false) : codec.decode (some raw) = codec.decode none := by
  obtain ⟨α, find?, make, hseeks⟩ := codec.exists_seeks
  rw [hseeks.matchesWire_eq, Option.isSome_eq_false_iff, Option.isNone_iff_eq_none] at hraw
  rw [hseeks.decode_eq, hseeks.decode_eq, Option.bind_some, hraw, Option.bind_none]

/-- What a codec of single values makes of any wire value: it recognises just those that
hold a value, which it reads, and reads null and all others as if they were absent. -/
structure ReadsHeld (codec : ScalarCodec) : Prop where
  matchesWire_iff : ∀ raw, codec.matchesWire raw = true ↔ ∃ value, codec.Holds raw value
  decode_of_holds : ∀ raw value, codec.Holds raw value → codec.decode (some raw) = value
  decode_malformed : ∀ raw, raw = .null ∨ codec.matchesWire raw = false →
    codec.decode (some raw) = codec.decode none

end ScalarCodec

end AuditFields
