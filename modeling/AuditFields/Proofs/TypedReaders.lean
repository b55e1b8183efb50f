/-
Types with readers and writers of their own.  A timestamp, an image hash, a colour
and a value of an enumeration are read from wire values and written to them without
a codec too.  Such a reader takes just the wire values that the codec recognises, and
reads in them what the codec reads.
-/
import AuditFields.Proofs.JsonCandidates

namespace AuditFields

namespace Json

/-- A reader that takes text and goes on with it reads what the rest makes of the text. -/
theorem stringOr_bind_eq_ok_iff {α : Type} {rest : String → Except Mismatch α}
    {rest? : String → Option α} {value : α}
    (hrest : ∀ s, rest s = .ok value ↔ rest? s = some value) {expected : String} {json : Json} :
    (json.stringOr expected >>= rest) = .ok value ↔ json.asString?.bind rest? = some value := by
  cases json with
  | string s => exact hrest s
  | null | bool | number | array | object => constructor <;> intro hread <;> contradiction

theorem boundedNat_eq_ok_iff {limit n : Nat} {expected : String} {json : Json} :
    json.boundedNat limit expected = .ok n ↔ json.asNat? = some n ∧ n ≤ limit := by
  cases json with
  | number number =>
      cases number with
      | int value range =>
          rw [boundedNat, asNat?_int]
          by_cases hvalue : 0 ≤ value ∧ value ≤ limit
          · rw [if_pos hvalue, if_pos hvalue.1, Except.ok.injEq, Option.some.injEq]
            omega
          · rw [if_neg hvalue]
            constructor
            · intro hread
              contradiction
            · rintro ⟨hnat, hle⟩
              split at hnat
              · have htoNat := Option.some.inj hnat
                omega
              · contradiction
      | float => simp [boundedNat, asNat?, asInt?]
  | null | bool | string | array | object => simp [boundedNat, asNat?, asInt?]

end Json

theorem Timestamp.ofJson_eq_ok_iff {json : Json} {t : Timestamp} :
    ofJson json = .ok t ↔ json.asTimestamp? = some t := by
  apply Json.stringOr_bind_eq_ok_iff
  intro s
  rw [toOption_eq_some_iff]
  cases ofText s <;> simp

theorem ImageHash.ofJson_eq_ok_iff {json : Json} {hash : ImageHash} :
    ofJson json = .ok hash ↔ json.asImageHash? = some hash := by
  apply Json.stringOr_bind_eq_ok_iff
  intro s
  rw [toOption_eq_some_iff]
  cases ofText s <;> simp

theorem Color.ofJson_eq_ok_iff {json : Json} {color : Color} :
    ofJson json = .ok color ↔ json.asColor? = some color := by
  cases json with
  | number number =>
      cases number with
      | int value range =>
          rw [ofJson, Json.asColor?, Json.asNat?_int]
          by_cases hvalue : 0 ≤ value
          · rw [if_neg (Int.not_lt.2 hvalue), if_pos hvalue, Option.bind_some]
            cases ofNat? value.toNat <;> simp
          · rw [if_pos (Int.not_le.1 hvalue), if_neg hvalue]
            constructor <;> intro hread <;> contradiction
      | float => constructor <;> intro hread <;> contradiction
  | null | bool | string | array | object => constructor <;> intro hread <;> contradiction

theorem EnumValue.ofJson_eq_ok_iff {kind : EnumKind} {json : Json} {value : EnumValue kind} :
    ofJson json = .ok value ↔ json.asEnumValue? = some value := by
  rw [ofJson, Json.asEnumValue?]
  constructor
  · intro hvalue
    obtain ⟨n, hn, rfl⟩ := exists_of_map_eq_ok hvalue
    obtain ⟨hnat, hle⟩ := Json.boundedNat_eq_ok_iff.1 hn
    simp only [hnat, if_pos (Nat.lt_succ_of_le hle)]
  · intro hvalue
    cases hnat : json.asNat? with
    | none =>
        rw [hnat] at hvalue
        contradiction
    | some n =>
        simp only [hnat] at hvalue
        split at hvalue
        · rename_i hlt
          rw [Json.boundedNat_eq_ok_iff.2 ⟨hnat, Nat.le_of_lt_succ hlt⟩]
          exact congrArg Except.ok (Option.some.inj hvalue)
        · contradiction

namespace Codec

/-- A type whose own reader and writer are those of a codec.  The codec has a value for
each value of the type, and perhaps one more that stands for none. -/
structure IsTypedAs {α : Type} (codec : Codec) (ofJson : Json → Except Mismatch α)
    (toJson : α → Json) (wrap : α → codec.Value) : Prop where
  succeeds_iff : ∀ json, (∃ value, ofJson json = .ok value) ↔ codec.matchesWire json = true
  read : ∀ json value, ofJson json = .ok value → codec.decode (some json) = wrap value
  written : ∀ value, toJson value = codec.encode (wrap value)

/-- A codec that looks for a value on the wire has the type of it if the reader of the
type succeeds with what is found. -/
theorem IsTypedAs.of_found {α : Type} {codec : Codec} {ofJson : Json → Except Mismatch α}
    {toJson : α → Json} {wrap : α → codec.Value} {found : Json → Option α}
    (hread : ∀ json value, ofJson json = .ok value ↔ found json = some value)
    (hmatches : ∀ json, codec.matchesWire json = (found json).isSome)
    (hdecode : ∀ json value, found json = some value → codec.decode (some json) = wrap value)
    (hencode : ∀ value, toJson value = codec.encode (wrap value)) :
    codec.IsTypedAs ofJson toJson wrap where
  succeeds_iff := by
    intro json
    rw [hmatches, Option.isSome_iff_exists]
    exact exists_congr (hread json)
  read := fun json value hvalue => hdecode json value ((hread json value).1 hvalue)
  written := hencode

theorem timestamp_isTypedAs : timestamp.IsTypedAs Timestamp.ofJson Timestamp.toJson some :=
  .of_found (fun _ _ => Timestamp.ofJson_eq_ok_iff) (fun _ => rfl) (fun _ _ hfound => hfound)
    fun _ => rfl

theorem imageHash_isTypedAs : imageHash.IsTypedAs ImageHash.ofJson ImageHash.toJson some :=
  .of_found (fun _ _ => ImageHash.ofJson_eq_ok_iff) (fun _ => rfl) (fun _ _ hfound => hfound)
    fun _ => rfl

/-- The codec reads black also where there is no colour, which the type refuses. -/
theorem color_isTypedAs : color.IsTypedAs Color.ofJson Color.toJson fun value => value := by
  refine .of_found (fun _ _ => Color.ofJson_eq_ok_iff) (fun _ => rfl) ?_
    fun color => Json.ofUInt64_ofUInt32 color.toUInt32
  intro json value hfound
  change json.asColor?.getD .black = value
  rw [hfound, Option.getD_some]

theorem enum_isTypedAs (kind : EnumKind) (always : Bool) :
    (enum kind always).IsTypedAs (@EnumValue.ofJson kind) EnumValue.toJson fun value => value := by
  refine .of_found (fun _ _ => EnumValue.ofJson_eq_ok_iff) (fun _ => rfl) ?_
    fun value => Json.ofUInt64_ofUInt8 value.code
  intro json value hfound
  change json.asEnumValue?.getD .default = value
  rw [hfound, Option.getD_some]

/-- The readers and writers of the types speak the language of the codecs: on every
wire value they succeed together and read one value, and they write it alike. -/
theorem typed_readers_agree :
    timestamp.IsTypedAs Timestamp.ofJson Timestamp.toJson some ∧
      imageHash.IsTypedAs ImageHash.ofJson ImageHash.toJson some ∧
      color.IsTypedAs Color.ofJson Color.toJson (fun value => value) ∧
      ∀ (kind : EnumKind) (always : Bool),
        (enum kind always).IsTypedAs (@EnumValue.ofJson kind) EnumValue.toJson
          (fun value => value) :=
  ⟨timestamp_isTypedAs, imageHash_isTypedAs, color_isTypedAs, enum_isTypedAs⟩

/-- Blue is read as blue either way, and a negative number is refused as no colour. -/
theorem typed_readers_agree_blue :
    Color.ofJson (.ofInt 255 (by decide)) = .ok ⟨0, 0, 255⟩ ∧
      color.decode (some (.ofInt 255 (by decide))) = (⟨0, 0, 255⟩ : Color) ∧
      color.matchesWire (.ofInt (-1) (by decide)) = false ∧
      ¬ ∃ value, Color.ofJson (.ofInt (-1) (by decide)) = .ok value := by
  obtain ⟨hsucceeds, hread, -⟩ := typed_readers_agree.2.2.1
  have hblue : Color.ofJson (.ofInt 255 (by decide)) = .ok ⟨0, 0, 255⟩ := rfl
  refine ⟨hblue, hread _ _ hblue, rfl, ?_⟩
  rw [hsucceeds]
  decide

end Codec

end AuditFields
