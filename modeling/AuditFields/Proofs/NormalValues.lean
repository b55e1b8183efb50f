/-
Normal values: those that a codec reads back from its own wire form.  Whatever
is on the wire, what is read from it is normal, except that a timestamp may
leave the years of four digits.
-/
import AuditFields.Proofs.CommaItems
import AuditFields.Proofs.FieldWriting
import AuditFields.Proofs.TimestampText
import AuditFields.Proofs.WireForms

namespace AuditFields

namespace Ascending

universe u

variable {α : Type u} [LT α] [DecidableLT α] [DecidableEq α]

theorem ofList_of_pairwise {items : List α} (hitems : items.Pairwise (· < ·)) :
    ofList items = items := by
  induction items with
  | nil => rfl
  | cons a rest ih =>
      rw [List.pairwise_cons] at hitems
      change insert a (ofList rest) = a :: rest
      rw [ih hitems.2]
      cases rest with
      | nil => rfl
      | cons b rest => rw [insert, if_pos (hitems.1 b List.mem_cons_self)]

end Ascending

namespace EmptyRule

variable {α : Type}

@[simp] theorem normalize_none (rule : EmptyRule) (isEmpty : α → Bool) :
    rule.normalize isEmpty none = none := by
  cases rule <;> rfl

/-- Applying the rule again changes nothing. -/
@[simp] theorem normalize_normalize (rule : EmptyRule) (isEmpty : α → Bool)
    (value : Option α) :
    rule.normalize isEmpty (rule.normalize isEmpty value) = rule.normalize isEmpty value := by
  cases rule <;> simp [normalize]

theorem normalize_eq_some_iff (rule : EmptyRule) (isEmpty : α → Bool) (value : Option α)
    (kept : α) :
    rule.normalize isEmpty value = some kept ↔
      value = some kept ∧ (rule = .unset → isEmpty kept = false) := by
  cases rule <;> simp [normalize]

theorem normalize_list_of_ne_nil (rule : EmptyRule) {items : List α} (hitems : items ≠ []) :
    rule.normalize List.isEmpty (some items) = some items :=
  (rule.normalize_eq_some_iff _ _ _).2 ⟨rfl, fun _ => List.isEmpty_eq_false_iff.2 hitems⟩

theorem ne_nil_of_normalize_unset {value : Option (List α)} {items : List α}
    (hitems : EmptyRule.unset.normalize List.isEmpty value = some items) :
    value = some items ∧ items ≠ [] := by
  obtain ⟨hvalue, hempty⟩ := (normalize_eq_some_iff _ _ _ _).1 hitems
  exact ⟨hvalue, List.isEmpty_eq_false_iff.1 (hempty rfl)⟩

end EmptyRule

namespace ScalarCodec

/-- Values that have a wire form of their own. -/
def IsNormal : (codec : ScalarCodec) → codec.Value → Prop
  | .optionalText _, value => value ≠ some ""
  | .enum _ _, value => .ofCode value.code = value
  | .timestamp, value =>
      ∀ t, value = some t → t.isWireRepresentable = true ∧ t.LeapEndsMinute
  | .object, value => value ≠ some []
  | .bool _, _ | .int _ _, _ | .text _ _ _, _ | .color, _ | .id _, _ | .flags _, _
  | .imageHash, _ => True

/-- Just the instants that their text gives back are read back. -/
theorem decode_encode_timestamp_iff {t : Timestamp} :
    ScalarCodec.timestamp.decode (some (ScalarCodec.timestamp.encode (some t))) = some t ↔
      t.isWireRepresentable = true ∧ t.LeapEndsMinute := by
  rw [decode, encode, Option.elim_some, Option.bind_some,
    Json.asTimestamp?_string_eq_some_iff, Timestamp.ofText_text_eq_ok_self_iff]

/-- A normal value is read back from its wire form. -/
theorem decode_encode {codec : ScalarCodec} {value : codec.Value}
    (hvalue : codec.IsNormal value) : codec.decode (some (codec.encode value)) = value := by
  cases codec with
  | bool => rfl
  | int => simp [decode, encode]
  | text => rfl
  | optionalText =>
      cases value with
      | none => rfl
      | some s =>
          have hne : s ≠ "" := fun heq => hvalue (congrArg some heq)
          simp [decode, encode, Json.asString?, hne]
  | color => rw [decode, encode, Option.bind_some, Color.asColor?_ofUInt32, Option.getD_some]
  | id =>
      cases value with
      | none => rfl
      | some id => simp [decode, encode]
  | flags => simp [decode, encode]
  | enum kind always =>
      have hcode : EnumValue.ofCode value.code = value := hvalue
      simp [decode, encode, hcode]
  | timestamp =>
      cases value with
      | none => rfl
      | some t => exact decode_encode_timestamp_iff.2 (hvalue t rfl)
  | imageHash =>
      cases value with
      | none => rfl
      | some hash => simp [decode, encode]
  | object =>
      cases value with
      | none => rfl
      | some members =>
          have hne : members ≠ [] := fun heq => hvalue (congrArg some heq)
          simp [decode, encode, Json.asObject?, hne]

/-- Whatever is on the wire, what is read is normal, timestamps apart. -/
theorem isNormal_decode {codec : ScalarCodec} (hcodec : codec ≠ .timestamp)
    (raw : Option Json) : codec.IsNormal (codec.decode raw) := by
  cases codec with
  | optionalText =>
      intro hempty
      simp [decode, Option.filter_eq_some_iff] at hempty
  | enum kind always =>
      simp only [IsNormal, decode]
      cases hread : raw.bind Json.asEnumValue? with
      | none => exact EnumValue.ofCode_default
      | some value =>
          obtain ⟨json, -, hjson⟩ := Option.bind_eq_some_iff.1 hread
          simp only [Json.asEnumValue?] at hjson
          split at hjson
          · split at hjson
            · injection hjson with hjson
              rw [← hjson]
              simp
            · contradiction
          · contradiction
  | timestamp => exact absurd rfl hcodec
  | object =>
      intro hempty
      simp [decode, Option.filter_eq_some_iff] at hempty
  | bool | int | text | color | id | flags | imageHash => trivial

/-- Just the normal values are read back. -/
theorem decode_encode_iff {codec : ScalarCodec} {value : codec.Value} :
    codec.decode (some (codec.encode value)) = value ↔ codec.IsNormal value := by
  refine ⟨fun hread => ?_, decode_encode⟩
  by_cases hcodec : codec = .timestamp
  · subst hcodec
    rintro t rfl
    exact decode_encode_timestamp_iff.1 hread
  · exact hread ▸ isNormal_decode hcodec _

end ScalarCodec

end AuditFields
