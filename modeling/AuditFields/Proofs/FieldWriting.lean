/-
Writing one attribute into an object.  Only the member of the attribute's key
changes, and what is left out is what an absent member stands for.
-/
import AuditFields.Field

namespace AuditFields

/-- A value is the default exactly when it is what an absent member gives. -/
theorem ScalarCodec.isDefault_iff (codec : ScalarCodec) (value : codec.Value) :
    codec.isDefault value = true ↔ value = codec.decode none := by
  cases codec with
  | flags kind =>
      obtain ⟨bits⟩ := value
      simp [isDefault, decode]
  | bool | int | text | optionalText | color | id | enum | timestamp | imageHash | object =>
      simp [isDefault, decode]

theorem Codec.isDefault_iff (codec : Codec) (value : codec.Value) :
    codec.isDefault value = true ↔ value = codec.decode none := by
  cases codec with
  | scalar codec => exact codec.isDefault_iff value
  | idArray | stringArray | stringSet | objectArray | nestedArray =>
      simp [isDefault, decode]

namespace Field

theorem get?_put_of_ne (field : Field) {other : String} (hne : other ≠ field.key)
    (value : field.codec.Value) (withDefaults : Bool) (data : WireObject) :
    (field.put value withDefaults data).get? other = data.get? other := by
  rw [put]
  split
  · exact WireObject.get?_insert_of_ne hne _ data
  · rfl

/-- What is read after writing into an object without the attribute. -/
theorem parse_put_of_absent (field : Field) (value : field.codec.Value) (withDefaults : Bool)
    {data : WireObject} (habsent : data.get? field.key = none) :
    field.parse (field.put value withDefaults data) =
      if withDefaults || field.codec.alwaysWritten || !field.codec.isDefault value then
        field.codec.decode (some (field.codec.encode value))
      else field.codec.decode none := by
  rw [parse, put]
  split
  · rw [WireObject.get?_insert_self]
  · rw [habsent]

/-- A value that its wire form gives back is read again in both modes. -/
theorem parse_put (field : Field) {value : field.codec.Value}
    (hread : field.codec.decode (some (field.codec.encode value)) = value)
    (withDefaults : Bool) {data : WireObject} (habsent : data.get? field.key = none) :
    field.parse (field.put value withDefaults data) = value := by
  rw [field.parse_put_of_absent value withDefaults habsent]
  by_cases hdefault : field.codec.isDefault value = true
  · have hvalue := (field.codec.isDefault_iff value).1 hdefault
    rw [hread, ← hvalue]
    split <;> rfl
  · rw [if_pos (by simp [hdefault]), hread]

end Field

theorem ScalarField.parse_put (field : ScalarField) {value : field.codec.Value}
    (hread : field.codec.decode (some (field.codec.encode value)) = value)
    (withDefaults : Bool) {data : WireObject} (habsent : data.get? field.key = none) :
    field.parse (field.put value withDefaults data) = value :=
  field.toField.parse_put hread withDefaults habsent

end AuditFields
