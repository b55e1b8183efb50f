/-
Nested objects.  An object is its attributes put one after another under
different keys, so that an object whose attributes are normal is read back from
its wire form, whether or not defaults are written.
-/
import AuditFields.Nested.Kind
import AuditFields.Proofs.Assignments
import AuditFields.Proofs.NormalValues

namespace AuditFields

/-- The value of one attribute, which becomes a member of an object. -/
structure Member where
  field : ScalarField
  value : field.codec.Value

namespace Member

/-- A value that its codec reads back. -/
def IsNormal (member : Member) : Prop :=
  member.field.codec.IsNormal member.value

/-- Put attributes into an object, the first one first. -/
def putAll (attributes : List Member) (withDefaults : Bool) (data : WireObject) :
    WireObject :=
  attributes.foldl (fun data member => member.field.put member.value withDefaults data)
    data

/-- The attribute as it is put into an object. -/
def assignment (member : Member) (withDefaults : Bool) : Assignment :=
  ⟨member.field.toField, member.value, withDefaults⟩

theorem putAll_eq (attributes : List Member) (withDefaults : Bool) (data : WireObject) :
    putAll attributes withDefaults data =
      Assignment.putAll (attributes.map (·.assignment withDefaults)) data := by
  rw [Assignment.putAll, List.foldl_map]
  rfl

theorem map_key_assignment (attributes : List Member) (withDefaults : Bool) :
    (attributes.map (·.assignment withDefaults)).map (·.field.key) =
      attributes.map (·.field.key) :=
  List.map_map

theorem get?_putAll_of_notMem {key : String} {attributes : List Member}
    (hkey : key ∉ attributes.map (·.field.key)) (withDefaults : Bool) (data : WireObject) :
    (putAll attributes withDefaults data).get? key = data.get? key := by
  rw [← map_key_assignment attributes withDefaults] at hkey
  rw [putAll_eq, Assignment.get?_putAll_of_notMem hkey]

/-- The member of an attribute is what putting that attribute alone makes of it. -/
theorem get?_putAll {attributes : List Member}
    (hkeys : (attributes.map (·.field.key)).Nodup) (withDefaults : Bool) (data : WireObject)
    {member : Member} (hmem : member ∈ attributes) :
    (putAll attributes withDefaults data).get? member.field.key =
      (member.field.put member.value withDefaults data).get? member.field.key := by
  rw [← map_key_assignment attributes withDefaults] at hkeys
  rw [putAll_eq]
  exact Assignment.get?_putAll hkeys (List.mem_map_of_mem hmem) data

/-- Attributes with different keys do not disturb each other: each one is read
back from the object that all of them were put into. -/
theorem parse_putAll {attributes : List Member}
    (hkeys : (attributes.map (·.field.key)).Nodup)
    (hnormal : ∀ member ∈ attributes, member.IsNormal) (withDefaults : Bool)
    {data : WireObject}
    (habsent : ∀ member ∈ attributes, data.get? member.field.key = none)
    {member : Member} (hmem : member ∈ attributes) :
    member.field.parse (putAll attributes withDefaults data) = member.value := by
  have hread := ScalarCodec.decode_encode (hnormal member hmem)
  calc member.field.parse (putAll attributes withDefaults data)
      = member.field.parse (member.field.put member.value withDefaults data) :=
        congrArg member.field.codec.decode (get?_putAll hkeys withDefaults data hmem)
    _ = member.value := member.field.parse_put hread withDefaults (habsent member hmem)

end Member

namespace NestedKind

/-- The attributes of an object, in the order in which they are written. -/
def attributes : (kind : NestedKind) → kind.Item → List Member
  | .permissionOverwrite, item =>
      [⟨PermissionOverwrite.allowField, PermissionOverwrite.allow item⟩,
        ⟨PermissionOverwrite.denyField, PermissionOverwrite.deny item⟩,
        ⟨PermissionOverwrite.targetIdField, PermissionOverwrite.targetId item⟩,
        ⟨PermissionOverwrite.targetTypeField, PermissionOverwrite.targetType item⟩]
  | .role, item =>
      [⟨PartialRole.idField, PartialRole.id item⟩,
        ⟨PartialRole.nameField, PartialRole.name item⟩]
  | .forumTag, item =>
      [⟨ForumTag.emojiIdField, ForumTag.emojiId item⟩,
        ⟨ForumTag.emojiNameField, ForumTag.emojiName item⟩,
        ⟨ForumTag.idField, ForumTag.id item⟩,
        ⟨ForumTag.moderatedField, ForumTag.moderated item⟩,
        ⟨ForumTag.nameField, ForumTag.name item⟩]

/-- Objects whose attributes have wire forms of their own. -/
def IsNormal (kind : NestedKind) (item : kind.Item) : Prop :=
  ∀ member ∈ kind.attributes item, member.IsNormal

/-- The keys of the attributes of a kind. -/
def keys : NestedKind → List String
  | .permissionOverwrite => ["allow", "deny", "id", "type"]
  | .role => ["id", "name"]
  | .forumTag => ["emoji_id", "emoji_name", "id", "moderated", "name"]

theorem map_key_attributes (kind : NestedKind) (item : kind.Item) :
    (kind.attributes item).map (·.field.key) = kind.keys := by
  cases kind <;> rfl

theorem keys_nodup (kind : NestedKind) : kind.keys.Nodup := by
  cases kind <;> decide

theorem toWire_eq_putAll (kind : NestedKind) (item : kind.Item) (withDefaults : Bool) :
    kind.toWire item withDefaults = Member.putAll (kind.attributes item) withDefaults [] := by
  cases kind <;> rfl

/-- The attributes of what was read are those read one by one. -/
theorem attributes_ofWire (kind : NestedKind) (data : WireObject) :
    ∀ member ∈ kind.attributes (kind.ofWire data),
      member.value = member.field.parse data ∧ member.field.codec ≠ .timestamp := by
  cases kind <;> simp only [attributes, List.forall_mem_cons]
  case permissionOverwrite =>
    exact ⟨⟨rfl, by decide⟩, ⟨rfl, by decide⟩, ⟨rfl, by decide⟩, ⟨rfl, by decide⟩,
      List.forall_mem_nil _⟩
  case role => exact ⟨⟨rfl, by decide⟩, ⟨rfl, by decide⟩, List.forall_mem_nil _⟩
  case forumTag =>
    exact ⟨⟨rfl, by decide⟩, ⟨rfl, by decide⟩, ⟨rfl, by decide⟩, ⟨rfl, by decide⟩,
      ⟨rfl, by decide⟩, List.forall_mem_nil _⟩

theorem isNormal_ofWire (kind : NestedKind) (data : WireObject) :
    kind.IsNormal (kind.ofWire data) := by
  intro member hmem
  obtain ⟨hvalue, hcodec⟩ := kind.attributes_ofWire data member hmem
  rw [Member.IsNormal, hvalue]
  exact ScalarCodec.isNormal_decode hcodec _

/-- Objects are determined by their attributes. -/
theorem ofWire_eq {kind : NestedKind} {item : kind.Item} {data : WireObject}
    (hparse : ∀ member ∈ kind.attributes item,
      member.field.parse data = member.value) : kind.ofWire data = item := by
  cases kind with
  | permissionOverwrite =>
      simp only [attributes, List.forall_mem_cons] at hparse
      obtain ⟨hallow, hdeny, htargetId, htargetType, -⟩ := hparse
      change PermissionOverwrite.ofWire data = item
      rw [PermissionOverwrite.ofWire, hallow, hdeny, htargetId, htargetType]
  | role =>
      simp only [attributes, List.forall_mem_cons] at hparse
      obtain ⟨hid, hname, -⟩ := hparse
      change PartialRole.ofWire data = item
      rw [PartialRole.ofWire, hid, hname]
  | forumTag =>
      simp only [attributes, List.forall_mem_cons] at hparse
      obtain ⟨hemojiId, hemojiName, hid, hmoderated, hname, -⟩ := hparse
      change ForumTag.ofWire data = item
      rw [ForumTag.ofWire, hemojiId, hemojiName, hid, hmoderated, hname]

/-- A normal object is read back from its wire form in both modes. -/
theorem ofWire_toWire {kind : NestedKind} {item : kind.Item} (hitem : kind.IsNormal item)
    (withDefaults : Bool) : kind.ofWire (kind.toWire item withDefaults) = item := by
  have hkeys : ((kind.attributes item).map (·.field.key)).Nodup :=
    kind.map_key_attributes item ▸ kind.keys_nodup
  apply ofWire_eq
  intro member hmem
  rw [toWire_eq_putAll]
  exact Member.parse_putAll hkeys hitem withDefaults (fun _ _ => rfl) hmem

end NestedKind

end AuditFields
