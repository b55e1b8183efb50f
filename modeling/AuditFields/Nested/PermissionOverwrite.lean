/-
Permission overwrites: the permissions that a channel allows or denies to one
role or user.
-/
import AuditFields.Codec.Scalar

namespace AuditFields

/-- A permission overwrite. -/
structure PermissionOverwrite where
  allow : FlagSet .permissions
  deny : FlagSet .permissions
  targetId : Option (Snowflake .generic)
  targetType : EnumValue .permissionOverwriteTargetType
  deriving DecidableEq

namespace PermissionOverwrite

def allowField : ScalarField := .named "allow" (.flags .permissions)

def denyField : ScalarField := .named "deny" (.flags .permissions)

/-- The role or user, depending on the target type. -/
def targetIdField : ScalarField := ⟨"target_id", "id", .id .generic⟩

def targetTypeField : ScalarField :=
  ⟨"target_type", "type", .enum .permissionOverwriteTargetType true⟩

/-- Read an overwrite. -/
def ofWire (data : WireObject) : PermissionOverwrite where
  allow := allowField.parse data
  deny := denyField.parse data
  targetId := targetIdField.parse data
  targetType := targetTypeField.parse data

/-- Write an overwrite. -/
def toWire (overwrite : PermissionOverwrite) (withDefaults : Bool) : WireObject :=
  ([] : WireObject)
    |> allowField.put overwrite.allow withDefaults
    |> denyField.put overwrite.deny withDefaults
    |> targetIdField.put overwrite.targetId withDefaults
    |> targetTypeField.put overwrite.targetType withDefaults

end PermissionOverwrite

end AuditFields
