/-
The kinds of objects that lists of nested objects hold.
-/
import AuditFields.Nested.ForumTag
import AuditFields.Nested.PartialRole
import AuditFields.Nested.PermissionOverwrite

namespace AuditFields

/-- A kind of nested object. -/
inductive NestedKind where
  | permissionOverwrite
  | role
  | forumTag
  deriving DecidableEq

namespace NestedKind

def all : List NestedKind :=
  [.permissionOverwrite, .role, .forumTag]

/-- Name of a list of such objects as a type. -/
def typeName : NestedKind → String
  | .permissionOverwrite => "PermissionOverwrites"
  | .role => "Roles"
  | .forumTag => "ForumTags"

/-- Name of a list of such objects in plain words. -/
def label : NestedKind → String
  | .permissionOverwrite => "permission overwrites"
  | .role => "roles"
  | .forumTag => "forum tags"

/-- The objects of a kind. -/
@[reducible] def Item : NestedKind → Type
  | .permissionOverwrite => PermissionOverwrite
  | .role => PartialRole
  | .forumTag => ForumTag

instance (kind : NestedKind) : DecidableEq kind.Item := by
  cases kind <;> unfold Item <;> infer_instance

/-- Read an object. -/
def ofWire : (kind : NestedKind) → WireObject → kind.Item
  | .permissionOverwrite, data => PermissionOverwrite.ofWire data
  | .role, data => PartialRole.ofWire data
  | .forumTag, data => ForumTag.ofWire data

/-- Write an object. -/
def toWire : (kind : NestedKind) → kind.Item → Bool → WireObject
  | .permissionOverwrite, item, withDefaults => PermissionOverwrite.toWire item withDefaults
  | .role, item, withDefaults => PartialRole.toWire item withDefaults
  | .forumTag, item, withDefaults => ForumTag.toWire item withDefaults

/-- The wire form of a list, every object with all its members. -/
def listToJson (kind : NestedKind) (items : List kind.Item) : Json :=
  .array (items.map fun item => .object (kind.toWire item true))

end NestedKind

end AuditFields
