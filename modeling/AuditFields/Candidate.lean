/-
Candidates: loosely typed input from outside, before it is validated.
-/
import AuditFields.Change.Value

namespace AuditFields

/-- A value that may become an attribute's value. -/
inductive Candidate where
  | null
  | bool (value : Bool)
  | integer (value : Int)
  | float (value : Double)
  | string (value : String)
  | array (items : List Candidate)
  | domain (value : ChangeValue)

namespace Candidate

/-- Name of the candidate's type in diagnostics. -/
def typeName : Candidate → String
  | .null => "null"
  | .bool _ => "bool"
  | .integer _ => "int"
  | .float _ => "float"
  | .string _ => "str"
  | .array _ => "array"
  | .domain value => value.domain.name

/-- Floating point candidates show all their digits and no exponent. -/
def floatStyle : FloatStyle where
  tie := .upward
  wholeFraction := false
  positional := none

mutual

/-- Text of a candidate in diagnostics. -/
def text : Candidate → String
  | .null => "null"
  | .bool value => if value then "true" else "false"
  | .integer value => Text.decimalInt value
  | .float value => value.text floatStyle
  | .string value => Text.quoted value
  | .array items => "[" ++ itemsText items ++ "]"
  | .domain value => value.text

/-- Texts of the items of an array, with commas between them. -/
def itemsText : List Candidate → String
  | [] => ""
  | [item] => text item
  | item :: rest => text item ++ ", " ++ itemsText rest

end

/-- Text of a candidate with its type. -/
def describe (candidate : Candidate) : String :=
  candidate.text ++ " (" ++ candidate.typeName ++ ")"

mutual

/-- The candidate of a JSON value. -/
def ofJson : Json → Candidate
  | .null => .null
  | .bool value => .bool value
  | .number (.int value _) => .integer value
  | .number (.float value _) => .float value
  | .string value => .string value
  | .array items => .array (ofJsonItems items)
  | .object members => .domain (.object members)

/-- The candidates of the items of an array. -/
def ofJsonItems : List Json → List Candidate
  | [] => []
  | item :: rest => ofJson item :: ofJsonItems rest

end

/-- The candidate of a member that may be absent. -/
def ofMember (member : Option Json) : Candidate :=
  member.elim .null ofJson

end Candidate

end AuditFields
