/-
Validation of nested objects.  The attributes are validated one after another
and the first refusal is reported.
-/
import AuditFields.Codec.ScalarAccept

namespace AuditFields

/-- Validate the member of an attribute; an absent one counts as null. -/
def ScalarField.validateMember (field : ScalarField) (data : WireObject) :
    Except ValidationError field.codec.Value :=
  field.validate (.ofMember (data.get? field.key))

/-- Read an overwrite from outside.  An absent permission set is empty. -/
def PermissionOverwrite.validate (data : WireObject) :
    Except ValidationError PermissionOverwrite := do
  let flags (key : String) : Candidate := (data.get? key).elim (.integer 0) .ofJson
  let allow ← allowField.validate (flags allowField.key)
  let deny ← denyField.validate (flags denyField.key)
  let targetId ← targetIdField.validateMember data
  let targetType ← targetTypeField.validateMember data
  return { allow, deny, targetId, targetType }

/-- Read a partial role from outside. -/
def PartialRole.validate (data : WireObject) : Except ValidationError PartialRole := do
  let id ← idField.validateMember data
  let name ← nameField.validateMember data
  return { id, name }

/-- Read a tag from outside.  Whether it is moderated is read as from the wire. -/
def ForumTag.validate (data : WireObject) : Except ValidationError ForumTag := do
  let emojiId ← emojiIdField.validateMember data
  let emojiName ← emojiNameField.validateMember data
  let id ← idField.validateMember data
  let name ← nameField.validateMember data
  return { emojiId, emojiName, id, moderated := moderatedField.parse data, name }

/-- Read an object of a kind from outside. -/
def NestedKind.validate :
    (kind : NestedKind) → WireObject → Except ValidationError kind.Item
  | .permissionOverwrite, data => PermissionOverwrite.validate data
  | .role, data => PartialRole.validate data
  | .forumTag, data => ForumTag.validate data

end AuditFields
