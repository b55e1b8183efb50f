/-
Change values: what stands on one side of a change, with one form for each
domain.  Values that are not understood stay as they came.
-/
import AuditFields.Change.Domain
import AuditFields.Codec.EmptyRule
import AuditFields.Value.TextSet

namespace AuditFields

/-- A typed value of one side of a change. -/
inductive ChangeValue where
  | bool (value : Bool)
  | integer (value : Int64)
  | id (value : Snowflake .generic)
  | ids (values : List (Snowflake .generic))
  | string (value : String)
  | strings (values : List String)
  | stringSet (values : TextSet)
  | timestamp (value : Timestamp)
  | imageHash (value : ImageHash)
  | color (value : Color)
  | flags (kind : FlagKind) (value : FlagSet kind)
  | enum (kind : EnumKind) (value : EnumValue kind)
  | nested (kind : NestedKind) (items : List kind.Item)
  | object (members : WireObject)
  | objects (items : List WireObject)
  | raw (value : Json)
  deriving DecidableEq

namespace ChangeValue

/-- The domain of a value. -/
def domain : ChangeValue → ValueDomain
  | .bool _ => .bool
  | .integer _ => .integer
  | .id _ => .id
  | .ids _ => .ids
  | .string _ => .string
  | .strings _ => .strings
  | .stringSet _ => .stringSet
  | .timestamp _ => .timestamp
  | .imageHash _ => .imageHash
  | .color _ => .color
  | .flags kind _ => .flags kind
  | .enum kind _ => .enum kind
  | .nested kind _ => .nested kind
  | .object _ => .object
  | .objects _ => .objects
  | .raw _ => .raw

/-- Whether a value is an empty text, list, set or object. -/
def isEmpty : ChangeValue → Bool
  | .ids values => values.isEmpty
  | .string value => value = ""
  | .strings values => values.isEmpty
  | .stringSet values => values.items.isEmpty
  | .nested _ items => items.isEmpty
  | .object members => members.isEmpty
  | .objects items => items.isEmpty
  | .bool _ | .integer _ | .id _ | .timestamp _ | .imageHash _ | .color _ | .flags _ _
  | .enum _ _ | .raw _ => false

/-- The wire form of a value. -/
def toWire : ChangeValue → Json
  | .bool value => .bool value
  | .integer value => .ofInt64 value
  | .id value => .string value.text
  | .ids values => .array (values.map fun id => .string id.text)
  | .string value => .string value
  | .strings values => .array (values.map Json.string)
  | .stringSet values => .string values.joined
  | .timestamp value => .string value.text
  | .imageHash value => .string value.text
  | .color value => .ofUInt32 value.toUInt32
  | .flags kind value =>
      match kind with
      | .permissions => .string (Text.decimal value.bits.toNat)
      | .application | .channel | .role | .systemChannel => .ofUInt64 value.bits
  | .enum _ value => .ofUInt8 value.code
  | .nested kind items => kind.listToJson items
  | .object members => .object members
  | .objects items => .array (items.map Json.object)
  | .raw value => value

/-- Text of a value in diagnostics.  Lists and objects show their wire form. -/
def text (value : ChangeValue) : String :=
  match value with
  | .bool value => if value then "true" else "false"
  | .integer value => Text.decimalInt value.toInt
  | .id value => value.text
  | .string value => Text.quoted value
  | .timestamp value => value.text
  | .imageHash value => value.text
  | .color value => value.text
  | .flags _ value => value.text
  | .ids _ | .strings _ | .stringSet _ | .enum _ _ | .nested _ _ | .object _ | .objects _
  | .raw _ => value.toWire.text

/-- The value of the given domain, or the value handed back. -/
def ofDomain (domain : ValueDomain) (value : ChangeValue) : Except ChangeValue ChangeValue :=
  if value.domain = domain then .ok value else .error value

/-- The wire form of one side; an unset side is null. -/
def sideToWire (side : Option ChangeValue) : Json :=
  side.elim .null toWire

/-- One side kept as it came; an absent or null one is unset. -/
def sideOfRaw (raw : Option Json) : Option ChangeValue :=
  (raw.filter fun json => json ≠ .null).map .raw

end ChangeValue

/-- Apply the rule for empty values to one side. -/
def EmptyRule.normalizeSide (rule : EmptyRule) (side : Option ChangeValue) :
    Option ChangeValue :=
  rule.normalize ChangeValue.isEmpty side

end AuditFields
