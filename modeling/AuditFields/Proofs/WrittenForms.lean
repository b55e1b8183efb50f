/-
The two written forms of an object.  With defaults an object has one member for each of
its fields, which holds the wire form of the field's value.  Without them just those
members are missing whose value is the default and whose codec does not always write.
Both forms are read back as the object, whatever the object was read from.
-/
import AuditFields.Proofs.CodecReadback
import AuditFields.Proofs.KeyOrder
import AuditFields.Proofs.NestedValidation
import AuditFields.Role
import Mathlib.Data.List.Nodup

namespace AuditFields

/-- A field of an object, with the value that the object has there. -/
structure FieldValue where
  field : Field
  value : field.codec.Value

namespace FieldValue

/-- A value that its codec reads back. -/
def IsNormal (v : FieldValue) : Prop :=
  v.field.codec.IsNormal v.value

/-- A value that needs no member: it is the default, and its codec does not write
defaults of its own accord. -/
def IsImplied (v : FieldValue) : Prop :=
  v.value = v.field.codec.decode none ∧ v.field.codec.alwaysWritten = false

instance (v : FieldValue) : Decidable v.IsImplied :=
  inferInstanceAs (Decidable (_ ∧ _))

/-- The value as it is put into an object. -/
def assignment (v : FieldValue) (withDefaults : Bool) : Assignment :=
  ⟨v.field, v.value, withDefaults⟩

theorem isWritten_assignment_iff (v : FieldValue) (withDefaults : Bool) :
    (v.assignment withDefaults).IsWritten ↔ withDefaults = true ∨ ¬ v.IsImplied := by
  have himplied : ¬ v.IsImplied ↔
      v.field.codec.alwaysWritten = true ∨ v.value ≠ v.field.codec.decode none := by
    rw [IsImplied, not_and_or, or_comm, Bool.not_eq_false]
  rw [himplied]
  exact Iff.rfl

/-- The object of some values. -/
def object (values : List FieldValue) (withDefaults : Bool) : WireObject :=
  Assignment.putAll (values.map (·.assignment withDefaults)) []

theorem map_key_assignment (values : List FieldValue) (withDefaults : Bool) :
    (values.map (·.assignment withDefaults)).map (·.field.key) = values.map (·.field.key) :=
  List.map_map

theorem isAscending_object (values : List FieldValue) (withDefaults : Bool) :
    (object values withDefaults).IsAscending := by
  have hputAll : ∀ (assignments : List Assignment) {data : WireObject}, data.IsAscending →
      (Assignment.putAll assignments data).IsAscending := by
    intro assignments
    induction assignments with
    | nil => exact fun hdata => hdata
    | cons first rest ih =>
        intro data hdata
        apply ih
        change (first.put data).IsAscending
        rw [Assignment.put_eq]
        split
        · exact WireObject.isAscending_insert _ _ hdata
        · exact hdata
  exact hputAll _ List.Pairwise.nil

theorem get?_object_of_notMem {values : List FieldValue} {key : String}
    (hkey : key ∉ values.map (·.field.key)) (withDefaults : Bool) :
    (object values withDefaults).get? key = none := by
  rw [← map_key_assignment values withDefaults] at hkey
  exact Assignment.get?_putAll_of_notMem hkey []

section Keys

variable {values : List FieldValue} (hkeys : (values.map (·.field.key)).Nodup)

include hkeys

/-- The member of a field is there unless the value needs none. -/
theorem get?_object {v : FieldValue} (hmem : v ∈ values) (withDefaults : Bool) :
    (object values withDefaults).get? v.field.key =
      if withDefaults = true ∨ ¬ v.IsImplied then some (v.field.codec.encode v.value)
      else none := by
  rw [← map_key_assignment values withDefaults] at hkeys
  have hmember := Assignment.get?_putAll hkeys (List.mem_map_of_mem hmem) []
  rw [Assignment.get?_put_self] at hmember
  simp only [isWritten_assignment_iff] at hmember
  exact hmember

/-- No two of the values share a key. -/
theorem exists_implied_iff {v : FieldValue} (hmem : v ∈ values) :
    (∃ other ∈ values, other.field.key = v.field.key ∧ other.IsImplied) ↔ v.IsImplied := by
  constructor
  · rintro ⟨other, hother, hkey, himplied⟩
    exact List.inj_on_of_nodup_map hkeys hother hmem hkey ▸ himplied
  · exact fun himplied => ⟨v, hmem, rfl, himplied⟩

/-- With defaults there is one member for each field. -/
theorem map_fst_object_perm :
    ((object values true).map Prod.fst).Perm (values.map (·.field.key)) := by
  refine (List.perm_ext_iff_of_nodup
    (WireObject.nodup_keys (isAscending_object values true)) hkeys).2 fun key => ?_
  rw [WireObject.mem_keys_iff]
  constructor
  · intro hne
    by_contra hkey
    exact hne (get?_object_of_notMem hkey true)
  · intro hkey
    obtain ⟨v, hmem, rfl⟩ := List.mem_map.1 hkey
    rw [get?_object hkeys hmem, if_pos (Or.inl rfl)]
    exact Option.some_ne_none _

/-- Without defaults just the members of the values that need none are missing. -/
theorem object_without_defaults :
    object values false = (object values true).filter fun member =>
      ¬ ∃ v ∈ values, v.field.key = member.1 ∧ v.IsImplied := by
  apply WireObject.ext_of_isAscending (isAscending_object values false)
    (WireObject.isAscending_filter _ (isAscending_object values true))
  intro key
  rw [WireObject.get?_filter fun key => ¬ ∃ v ∈ values, v.field.key = key ∧ v.IsImplied]
  by_cases hkey : key ∈ values.map (·.field.key)
  · obtain ⟨v, hmem, rfl⟩ := List.mem_map.1 hkey
    rw [get?_object hkeys hmem, get?_object hkeys hmem]
    simp [exists_implied_iff hkeys hmem]
  · rw [get?_object_of_notMem hkey, get?_object_of_notMem hkey, ite_self]

/-- Normal values are read back from either form. -/
theorem parse_object {v : FieldValue} (hmem : v ∈ values) (hv : v.IsNormal)
    (withDefaults : Bool) : v.field.parse (object values withDefaults) = v.value := by
  rw [Field.parse, get?_object hkeys hmem]
  split
  · exact Codec.decode_encode hv
  · rename_i hwritten
    exact (Decidable.not_not.1 (not_or.1 hwritten).2).1.symm

end Keys

end FieldValue

/-- A nested object's attribute, as the value of a field. -/
def Member.fieldValue (member : Member) : FieldValue :=
  ⟨member.field.toField, member.value⟩

namespace Role

/-- The values of a role, in the order in which they are written. -/
def values (role : Role) : List FieldValue :=
  [⟨Entity.Role.color, role.color⟩, ⟨Entity.Role.flags, role.flags⟩,
    ⟨Entity.Role.icon, role.icon⟩, ⟨Entity.Role.id, role.id⟩,
    ⟨Entity.Role.managed, role.managed⟩, ⟨Entity.Role.mentionable, role.mentionable⟩,
    ⟨Entity.Role.name, role.name⟩, ⟨Entity.Role.permissions, role.permissions⟩,
    ⟨Entity.Role.position, role.position⟩, ⟨Entity.Role.separated, role.separated⟩,
    ⟨Entity.Role.unicodeEmoji, role.unicodeEmoji⟩]

/-- A role is determined by its values. -/
theorem ofWire_eq {role : Role} {data : WireObject}
    (hparse : ∀ v ∈ role.values, v.field.parse data = v.value) : ofWire data = role := by
  simp only [values, List.forall_mem_cons] at hparse
  obtain ⟨hcolor, hflags, hicon, hid, hmanaged, hmentionable, hname, hpermissions, hposition,
    hseparated, hunicodeEmoji, -⟩ := hparse
  rw [ofWire, hcolor, hflags, hicon, hid, hmanaged, hmentionable, hname, hpermissions,
    hposition, hseparated, hunicodeEmoji]

/-- Roles whose values have wire forms of their own. -/
def IsNormal (role : Role) : Prop :=
  ∀ v ∈ role.values, v.IsNormal

/-- Just the emoji of a role can lack a wire form of its own. -/
theorem isNormal_iff {role : Role} : role.IsNormal ↔ role.unicodeEmoji ≠ some "" := by
  simp only [IsNormal, values, List.forall_mem_cons]
  change True ∧ True ∧ True ∧ True ∧ True ∧ True ∧ True ∧ True ∧ True ∧ True ∧
    role.unicodeEmoji ≠ some "" ∧ _ ↔ _
  simp

theorem isNormal_ofWire (data : WireObject) : (ofWire data).IsNormal :=
  isNormal_iff.2 (@ScalarCodec.isNormal_decode (.optionalText .unbounded) (by decide) _)

end Role

/-- The objects that are read and written field by field. -/
inductive ObjectKind where
  | role
  | nested (kind : NestedKind)
  deriving DecidableEq

namespace ObjectKind

/-- The objects of a kind. -/
@[reducible] def Object : ObjectKind → Type
  | .role => Role
  | .nested kind => kind.Item

/-- Read an object. -/
def ofWire : (kind : ObjectKind) → WireObject → kind.Object
  | .role, data => Role.ofWire data
  | .nested kind, data => kind.ofWire data

/-- Write an object. -/
def toWire : (kind : ObjectKind) → kind.Object → Bool → WireObject
  | .role, item, withDefaults => Role.toWire item withDefaults
  | .nested kind, item, withDefaults => kind.toWire item withDefaults

/-- The fields of the objects of a kind. -/
def fields : ObjectKind → List Field
  | .role => Entity.Role.fields
  | .nested kind => kind.fields.map ScalarField.toField

/-- The values of an object, in the order in which they are written. -/
def values : (kind : ObjectKind) → kind.Object → List FieldValue
  | .role, item => Role.values item
  | .nested kind, item => (kind.attributes item).map Member.fieldValue

/-- An object has one value for each field of its kind. -/
theorem map_field_values_perm (kind : ObjectKind) (object : kind.Object) :
    ((kind.values object).map (·.field)).Perm kind.fields := by
  cases kind with
  | role =>
      change [Entity.Role.color, Entity.Role.flags, Entity.Role.icon, Entity.Role.id,
        Entity.Role.managed, Entity.Role.mentionable, Entity.Role.name, Entity.Role.permissions,
        Entity.Role.position, Entity.Role.separated, Entity.Role.unicodeEmoji].Perm
          Entity.Role.fields
      decide
  | nested kind => cases kind <;> exact List.Perm.refl _

theorem nodup_keys (kind : ObjectKind) : (kind.fields.map (·.key)).Nodup := by
  cases kind with
  | role => decide
  | nested kind => cases kind <;> decide

theorem map_key_values_perm (kind : ObjectKind) (object : kind.Object) :
    ((kind.values object).map (·.field.key)).Perm (kind.fields.map (·.key)) := by
  have hperm := (kind.map_field_values_perm object).map Field.key
  rwa [List.map_map] at hperm

theorem nodup_keys_values (kind : ObjectKind) (object : kind.Object) :
    ((kind.values object).map (·.field.key)).Nodup :=
  (kind.map_key_values_perm object).nodup_iff.2 kind.nodup_keys

theorem toWire_eq_object (kind : ObjectKind) (object : kind.Object) (withDefaults : Bool) :
    kind.toWire object withDefaults = FieldValue.object (kind.values object) withDefaults := by
  cases kind with
  | role => rfl
  | nested kind => cases kind <;> rfl

/-- What was read has a wire form of its own, whatever it was read from. -/
theorem isNormal_ofWire (kind : ObjectKind) (data : WireObject) :
    ∀ v ∈ kind.values (kind.ofWire data), v.IsNormal := by
  cases kind with
  | role => exact Role.isNormal_ofWire data
  | nested kind =>
      change ∀ v ∈ (kind.attributes (kind.ofWire data)).map Member.fieldValue, v.IsNormal
      rw [List.forall_mem_map]
      exact kind.isNormal_ofWire data

/-- An object is determined by its values. -/
theorem ofWire_eq {kind : ObjectKind} {object : kind.Object} {data : WireObject}
    (hparse : ∀ v ∈ kind.values object, v.field.parse data = v.value) :
    kind.ofWire data = object := by
  cases kind with
  | role => exact Role.ofWire_eq hparse
  | nested kind =>
      change ∀ v ∈ (kind.attributes object).map Member.fieldValue, _ at hparse
      rw [List.forall_mem_map] at hparse
      exact NestedKind.ofWire_eq hparse

/-- Either form is read back just if all values of the object are normal. -/
theorem ofWire_toWire_iff {kind : ObjectKind} {object : kind.Object} {withDefaults : Bool} :
    kind.ofWire (kind.toWire object withDefaults) = object ↔
      ∀ v ∈ kind.values object, v.IsNormal := by
  constructor
  · intro hread
    rw [← hread]
    exact kind.isNormal_ofWire _
  · intro hnormal
    apply ofWire_eq
    intro v hmem
    rw [toWire_eq_object]
    exact FieldValue.parse_object (kind.nodup_keys_values object) hmem (hnormal v hmem) _

/-- What the two written forms of an object have to do with each other and with it. -/
structure HasBothForms (kind : ObjectKind) (object : kind.Object) : Prop where
  one_member_per_field : (kind.fields.map (·.key)).Nodup ∧
    ((kind.toWire object true).map Prod.fst).Perm (kind.fields.map (·.key))
  member_of_value : ∀ v ∈ kind.values object,
    (kind.toWire object true).get? v.field.key = some (v.field.codec.encode v.value)
  without_defaults : kind.toWire object false = (kind.toWire object true).filter fun member =>
    ¬ ∃ v ∈ kind.values object, v.field.key = member.1 ∧ v.IsImplied
  read_back : ∀ withDefaults, kind.ofWire (kind.toWire object withDefaults) = object

/-- Whatever an object is read from, it is written with one member for each field of its
kind, or without the members of the values that need none, and read back from both. -/
theorem hasBothForms_ofWire (kind : ObjectKind) (data : WireObject) :
    kind.HasBothForms (kind.ofWire data) := by
  have hkeys := kind.nodup_keys_values (kind.ofWire data)
  refine ⟨⟨kind.nodup_keys, ?_⟩, ?_, ?_, ?_⟩
  · rw [toWire_eq_object]
    exact (FieldValue.map_fst_object_perm hkeys).trans (kind.map_key_values_perm _)
  · intro v hmem
    rw [toWire_eq_object, FieldValue.get?_object hkeys hmem, if_pos (Or.inl rfl)]
  · rw [toWire_eq_object, toWire_eq_object]
    exact FieldValue.object_without_defaults hkeys
  · intro withDefaults
    exact ofWire_toWire_iff.2 (kind.isNormal_ofWire data)

/-- A tag is read with its emoji and its number, and without a name.  The empty name is
written all the same, although it is the default. -/
example :
    ofWire (.nested .forumTag) [("emoji_name", .string "x"), ("id", .string "5")] =
        (⟨none, some "x", some ⟨5, by decide⟩, false, ""⟩ : ForumTag) ∧
      toWire (.nested .forumTag) ⟨none, some "x", some ⟨5, by decide⟩, false, ""⟩ false =
        [("emoji_name", .string "x"), ("id", .string "5"), ("name", .string "")] := by
  decide

end ObjectKind

end AuditFields
