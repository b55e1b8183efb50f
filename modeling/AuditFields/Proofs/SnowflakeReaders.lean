/-
The readers of snowflakes.  A wire value stands for an identifier if it is the
identifier's number, or decimal text of it after at most one plus sign.  Text is
read with 64 bits, validated with 128 bits and a sign, and numbers are taken apart
in three ways, but each reader takes just the wire values that stand for one.
Validation takes just the candidates that stand for a number, zero being that of no
identifier.
-/
import AuditFields.Proofs.JsonCandidates
import AuditFields.Proofs.StableValidation

namespace AuditFields

namespace Text

/-- Decimal text of a number.  There may be a plus sign in front, and a minus sign if the
number is zero. -/
def Spells (cs : List Char) (n : Nat) : Prop :=
  Denotes 10 (withoutPlus cs) n ∨ n = 0 ∧ ∃ digits, cs = '-' :: digits ∧ Denotes 10 digits 0

theorem readInt128_eq_ok_iff {cs : List Char} {n : UInt64} :
    readInt128 cs = .ok (n.toNat : Int) ↔ Spells cs n.toNat := by
  have hle : n.toNat ≤ 0x7FFFFFFFFFFFFFFFFFFFFFFFFFFFFFFF :=
    Nat.le_trans (Nat.le_of_lt n.toNat_lt) (by decide)
  rw [readInt128, readInteger_eq_ok_iff]
  constructor
  · rintro (⟨m, hm, -, heq⟩ | ⟨digits, m, hcs, hm, -, heq⟩)
    · exact Or.inl (Int.ofNat_inj.1 heq ▸ hm)
    · obtain ⟨rfl, hzero⟩ : m = 0 ∧ n.toNat = 0 := by omega
      exact Or.inr ⟨hzero, digits, hcs, hm⟩
  · rintro (hm | ⟨hzero, digits, hcs, hm⟩)
    · exact Or.inl ⟨n.toNat, hm, hle, rfl⟩
    · exact Or.inr ⟨digits, 0, hcs, hm, Nat.zero_le _, by rw [hzero]; rfl⟩

end Text

/-- The number of 64 bits that a candidate stands for: null for zero, and an identifier
of any space for its own number. -/
def Candidate.HasNumber : Candidate → UInt64 → Prop
  | .null, n => n = 0
  | .integer z, n => z = n.toNat
  | .string s, n => Text.Spells s.toList n.toNat
  | .domain (.id id), n => id.value = n
  | .bool _, _ | .float _, _ | .array _, _ | .domain _, _ => False

theorem unsigned64_eq_ok_iff {z : Int} {n : UInt64} : unsigned64 z = .ok n ↔ z = n.toNat := by
  constructor
  · intro hn
    obtain ⟨m, rfl, hle, rfl⟩ := exists_nat_of_unsigned64 hn
    rw [UInt64.toNat_ofNat_of_lt' (Nat.lt_succ_of_le hle)]
  · rintro rfl
    exact unsigned64_toNat n

namespace Snowflake

variable {space : IdSpace} {id : Snowflake space}

/-- The wire values that stand for an identifier. -/
def IsReadFrom (id : Snowflake space) : Json → Prop
  | .number (.int value _) => value = id.value.toNat
  | .string s => Text.Denotes 10 (Text.withoutPlus s.toList) id.value.toNat
  | .null | .bool _ | .number (.float _ _) | .array _ | .object _ => False

/-- The number of an identifier, zero if there is none. -/
def number : Option (Snowflake space) → UInt64
  | none => 0
  | some id => id.value

theorem ofUInt64?_eq_iff {n : UInt64} {found : Option (Snowflake space)} :
    ofUInt64? n = found ↔ n = number found := by
  constructor
  · rintro rfl
    unfold ofUInt64?
    split
    · rename_i hzero
      exact hzero
    · rfl
  · rintro rfl
    cases found with
    | none => rfl
    | some id => exact id.ofUInt64?_value

/-- A number of 64 bits makes an identifier exactly if it is that of the identifier. -/
theorem ofUInt64?_ofNat_eq_some_iff {n : Nat} (hn : n < UInt64.size) :
    ofUInt64? (UInt64.ofNat n) = some id ↔ n = id.value.toNat := by
  rw [ofUInt64?_eq_iff, number, ← UInt64.toNat_inj, UInt64.toNat_ofNat_of_lt' hn]

theorem lt_size_of_readUInt64 {cs : List Char} {n : Nat} (hn : Text.readUInt64 cs = .ok n) :
    n < UInt64.size :=
  Nat.lt_succ_of_le ((Text.readNatural_eq_ok_iff (by decide)).1 hn).2

/-- The bound of 64 bits does not matter to the text of an identifier. -/
theorem readUInt64_eq_ok_iff {s : String} :
    Text.readUInt64 s.toList = .ok id.value.toNat ↔ id.IsReadFrom (.string s) := by
  have hle : id.value.toNat ≤ 0xFFFFFFFFFFFFFFFF := Nat.le_of_lt_succ id.value.toNat_lt
  exact (Text.readNatural_eq_ok_iff (by decide)).trans (and_iff_left hle)

theorem isReadFrom_text (id : Snowflake space) : id.IsReadFrom (.string id.text) :=
  readUInt64_eq_ok_iff.1 (Text.readUInt64_decimal id.value)

/-- The identifier that is found is the result, and there is a failure if none is. -/
theorem orError_eq_ok_iff {ε : Type} {e : ε} {found : Option (Snowflake space)} :
    (match found with
      | some id => Except.ok id
      | none => .error e) = .ok id ↔ found = some id := by
  cases found <;> simp

theorem ofText_eq_ok_iff {s : String} : ofText s = .ok id ↔ id.IsReadFrom (.string s) := by
  rw [← readUInt64_eq_ok_iff, ofText]
  cases hread : Text.readUInt64 s.toList with
  | error e => constructor <;> intro hid <;> contradiction
  | ok n =>
      rw [Except.ok.injEq, ← ofUInt64?_ofNat_eq_some_iff (lt_size_of_readUInt64 hread)]
      exact orError_eq_ok_iff

theorem itemId?_eq_some_iff {json : Json} :
    Codec.itemId? json = some id ↔ id.IsReadFrom json := by
  cases json with
  | string s =>
      rw [← readUInt64_eq_ok_iff, Codec.itemId?, Json.asUInt64?]
      cases hread : Text.readUInt64 s.toList with
      | error e => constructor <;> intro hid <;> contradiction
      | ok n =>
          rw [Except.ok.injEq, ← ofUInt64?_ofNat_eq_some_iff (lt_size_of_readUInt64 hread)]
          rfl
  | number n =>
      cases n with
      | int value range =>
          cases value with
          | ofNat n =>
              have hn : n < UInt64.size := Int.ofNat_lt.1 range.2
              exact (ofUInt64?_ofNat_eq_some_iff hn).trans Int.ofNat_inj.symm
          | negSucc n => constructor <;> intro hid <;> contradiction
      | float => constructor <;> intro hid <;> contradiction
  | null | bool | array | object => constructor <;> intro hid <;> contradiction

theorem map_unsigned64_eq_ok_iff {z : Int} {found : Option (Snowflake space)} :
    (unsigned64 z).map ofUInt64? = .ok found ↔ z = (number found).toNat := by
  rw [← unsigned64_eq_ok_iff]
  constructor
  · intro hfound
    obtain ⟨n, hn, hid⟩ := exists_of_map_eq_ok hfound
    rwa [← ofUInt64?_eq_iff.1 hid]
  · intro hn
    rw [hn]
    exact congrArg Except.ok (ofUInt64?_eq_iff.2 rfl)

/-- An item is accepted exactly if it stands for a number, and as the identifier that has
the number. -/
theorem acceptSnowflake_eq_ok_iff {item : Candidate} {found : Option (Snowflake space)} :
    acceptSnowflake item = .ok found ↔ item.HasNumber (number found) := by
  cases item with
  | null =>
      have hzero : (none : Option (Snowflake space)) = ofUInt64? 0 := rfl
      rw [acceptSnowflake, Except.ok.injEq, hzero, ofUInt64?_eq_iff]
      exact eq_comm
  | integer z => exact map_unsigned64_eq_ok_iff
  | string s =>
      rw [Candidate.HasNumber, ← Text.readInt128_eq_ok_iff, acceptSnowflake]
      cases hread : Text.readInt128 s.toList with
      | error e => constructor <;> intro hfound <;> contradiction
      | ok z => rw [Except.ok.injEq, ← map_unsigned64_eq_ok_iff]
  | domain value =>
      cases value with
      | id id =>
          rw [acceptSnowflake, Except.ok.injEq, ← id.cast.ofUInt64?_value]
          exact ofUInt64?_eq_iff
      | _ => constructor <;> intro hfound <;> contradiction
  | bool | float | array => constructor <;> intro hfound <;> contradiction

/-- A wire value stands for the number of the identifiers that it is read as.  A minus sign
does not matter, being taken in front of zero alone, which is no identifier. -/
theorem hasNumber_ofJson_iff {json : Json} :
    (Candidate.ofJson json).HasNumber id.value ↔ id.IsReadFrom json := by
  cases json with
  | string s =>
      have hne : id.value.toNat ≠ 0 := fun hzero => id.ne_zero (UInt64.toNat_inj.1 hzero)
      exact or_iff_left fun hminus => hne hminus.1
  | number n => cases n <;> exact Iff.rfl
  | null => exact iff_of_false id.ne_zero fun hread => hread
  | bool | array | object => exact Iff.rfl

theorem accept_eq_ok_some_iff {json : Json} :
    (Codec.id space).accept (.ofJson json) = .ok (some id) ↔ id.IsReadFrom json :=
  acceptSnowflake_eq_ok_iff.trans hasNumber_ofJson_iff

theorem ofJson_eq_ok_iff {json : Json} : ofJson json = .ok id ↔ id.IsReadFrom json := by
  cases json with
  | string s =>
      rw [← ofText_eq_ok_iff, ofJson]
      cases (ofText s : Except _ (Snowflake space)) <;> simp
  | number n =>
      cases n with
      | int value range =>
          rw [← itemId?_eq_some_iff]
          refine orError_eq_ok_iff.trans ?_
          cases value <;> rfl
      | float => constructor <;> intro hid <;> contradiction
  | null | bool | array | object => constructor <;> intro hid <;> contradiction

/-- The readers of wire values take a value for an identifier all together or not at all. -/
structure IsReadAlike (id : Snowflake space) (json : Json) : Prop where
  decoded : (Codec.id space).decode (some json) = some id ↔ ofJson json = .ok id
  accepted : (Codec.id space).accept (.ofJson json) = .ok (some id) ↔ ofJson json = .ok id
  meaning : ofJson json = .ok id ↔ id.IsReadFrom json

theorem isReadAlike (id : Snowflake space) (json : Json) : id.IsReadAlike json where
  decoded := itemId?_eq_some_iff.trans ofJson_eq_ok_iff.symm
  accepted := accept_eq_ok_some_iff.trans ofJson_eq_ok_iff.symm
  meaning := ofJson_eq_ok_iff

/-- The readers of an identifier agree, on text, on numbers and on whatever else there
is on the wire: what one of them takes for an identifier, each of them does.  All of
them read the text of an identifier back, which is also how it is written. -/
theorem readers_agree (space : IdSpace) (id : Snowflake space) :
    (∀ s, ofText s = .ok id ↔ ofJson (.string s) = .ok id) ∧
      (∀ json, id.IsReadAlike json) ∧
      (ofText id.text = .ok id ∧ ofJson (.string id.text) = .ok id ∧
        (Codec.id space).decode (some (.string id.text)) = some id ∧
        (Codec.id space).accept (.string id.text) = .ok (some id)) ∧
      id.toJson = .string id.text ∧ (Codec.id space).encode (some id) = .string id.text := by
  have htext : id.IsReadFrom (.string id.text) := id.isReadFrom_text
  refine ⟨fun s => ofText_eq_ok_iff.trans ofJson_eq_ok_iff.symm, id.isReadAlike, ?_, rfl, rfl⟩
  exact ⟨ofText_eq_ok_iff.2 htext, ofJson_eq_ok_iff.2 htext, itemId?_eq_some_iff.2 htext,
    accept_eq_ok_some_iff.2 htext⟩

/-- Leading zeros and one plus sign do not count; a minus sign does. -/
example : ofText "+007" = .ok (⟨7, by decide⟩ : Snowflake .user) ∧
    (Codec.id .user).decode (some (.string "-7")) = none := ⟨rfl, rfl⟩

end Snowflake

end AuditFields
