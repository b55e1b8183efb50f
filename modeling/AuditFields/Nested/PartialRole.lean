/-
Partial roles: the roles that a change adds to a member or takes away.
-/
import AuditFields.Codec.Scalar

namespace AuditFields

/-- A role by identifier and name. -/
structure PartialRole where
  id : Option (Snowflake .role)
  name : String
  deriving DecidableEq

namespace PartialRole

def idField : ScalarField := .named "id" (.id .role)

/-- The name of a deleted role may be empty. -/
def nameField : ScalarField := .named "name" (.text "" (.atMost 100) true)

/-- Read a partial role. -/
def ofWire (data : WireObject) : PartialRole where
  id := idField.parse data
  name := nameField.parse data

/-- Write a partial role. -/
def toWire (role : PartialRole) (withDefaults : Bool) : WireObject :=
  ([] : WireObject)
    |> idField.put role.id withDefaults
    |> nameField.put role.name withDefaults

end PartialRole

end AuditFields
