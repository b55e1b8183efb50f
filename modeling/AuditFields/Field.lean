/-
Fields: the attributes of objects.  A field reads its attribute from an object,
writes it back, and validates input from outside.
-/
import AuditFields.Codec.Accept

namespace AuditFields

/-- An attribute: its name, its wire key and its codec. -/
structure Field where
  name : String
  key : String
  codec : Codec
  deriving DecidableEq

/-- A field of one value. -/
def ScalarField.toField (field : ScalarField) : Field :=
  ⟨field.name, field.key, .scalar field.codec⟩

namespace Field

/-- The field whose key is its name. -/
def named (name : String) (codec : Codec) : Field :=
  ⟨name, name, codec⟩

/-- Read the attribute of an object. -/
def parse (field : Field) (data : WireObject) : field.codec.Value :=
  field.codec.decode (data.get? field.key)

/-- Write the attribute into an object.  A default is left out unless defaults
are wanted or the codec always writes. -/
def put (field : Field) (value : field.codec.Value) (withDefaults : Bool)
    (data : WireObject) : WireObject :=
  if withDefaults || field.codec.alwaysWritten || !field.codec.isDefault value then
    data.insert field.key (field.codec.encode value)
  else data

/-- Validate a candidate for the attribute. -/
def validate (field : Field) (candidate : Candidate) :
    Except ValidationError field.codec.Value :=
  match field.codec.accept candidate with
  | .ok value => .ok value
  | .error rejection => .error ⟨field.name, rejection, candidate.describe⟩

/-- Read one side of a change.  An absent or null value is unset, and one that
the codec does not understand is kept as it came. -/
def parseChange (field : Field) (raw : Option Json) : Option ChangeValue :=
  match raw with
  | none => none
  | some raw =>
      if raw = .null then none
      else if field.codec.matchesWire raw then
        field.codec.toChange (field.codec.decode (some raw))
      else some (.raw raw)

/-- Validate a candidate for one side of a change. -/
def validateChange (field : Field) (candidate : Candidate) :
    Except ValidationError (Option ChangeValue) :=
  (field.validate candidate).map field.codec.toChange

end Field

end AuditFields
