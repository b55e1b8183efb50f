/-
Value domains: the kinds of values that the sides of a change can hold.
-/
import AuditFields.Nested.Kind

namespace AuditFields

/-- A kind of change value. -/
inductive ValueDomain where
  | bool
  | integer
  | id
  | ids
  | string
  | strings
  | stringSet
  | timestamp
  | imageHash
  | color
  | flags (kind : FlagKind)
  | enum (kind : EnumKind)
  | nested (kind : NestedKind)
  | object
  | objects
  | raw
  deriving DecidableEq

namespace ValueDomain

/-- Every domain, in the order of its listing. -/
def all : List ValueDomain :=
  [.bool, .integer, .id, .ids, .string, .strings, .stringSet, .timestamp, .imageHash, .color] ++
    FlagKind.all.map .flags ++ EnumKind.all.map .enum ++ NestedKind.all.map .nested ++
    [.object, .objects, .raw]

/-- Short name in diagnostics. -/
def name : ValueDomain → String
  | .bool => "bool"
  | .integer => "int"
  | .id => "id"
  | .ids => "id list"
  | .string => "str"
  | .strings => "str list"
  | .stringSet => "str set"
  | .timestamp => "timestamp"
  | .imageHash => "image hash"
  | .color => "color"
  | .flags kind => kind.label
  | .enum kind => kind.label
  | .nested kind => kind.label
  | .object => "object"
  | .objects => "object list"
  | .raw => "raw"

/-- Name of the domain as a type. -/
def typeName : ValueDomain → String
  | .bool => "Bool"
  | .integer => "Integer"
  | .id => "Id"
  | .ids => "Ids"
  | .string => "String"
  | .strings => "Strings"
  | .stringSet => "StringSet"
  | .timestamp => "Timestamp"
  | .imageHash => "ImageHash"
  | .color => "Color"
  | .flags kind => kind.typeName
  | .enum kind => kind.typeName
  | .nested kind => kind.typeName
  | .object => "Object"
  | .objects => "Objects"
  | .raw => "Raw"

/-- The domain of a short name. -/
def ofName? (name : String) : Option ValueDomain :=
  all.find? fun domain => domain.name = name

/-- Whether values of the domain travel as an array. -/
def isSequence : ValueDomain → Bool
  | .ids | .strings | .nested _ | .objects => true
  | .bool | .integer | .id | .string | .stringSet | .timestamp | .imageHash | .color
  | .flags _ | .enum _ | .object | .raw => false

end ValueDomain

end AuditFields
