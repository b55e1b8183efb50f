/-
Rejections: why a codec refuses a candidate, and how that is reported.
-/
import AuditFields.Candidate
import AuditFields.Codec.Bounds

namespace AuditFields

/-- The kinds of input that a codec takes. -/
inductive InputKind where
  | bool
  | int
  | text
  | optionalText
  | color
  | id
  | idList
  | textList
  | textSet
  | object
  | objectList
  | flags
  | flagsOrText
  | enum
  | timestamp
  | imageHash
  deriving DecidableEq

/-- The kinds of input in words. -/
def InputKind.label : InputKind → String
  | .bool => "bool"
  | .int => "int"
  | .text => "str"
  | .optionalText => "str or null"
  | .color => "int, str or color"
  | .id => "int, str or id"
  | .idList => "array of ids"
  | .textList => "array of str"
  | .textSet => "str or array of str"
  | .object => "object or null"
  | .objectList => "array of objects"
  | .flags => "int or flags"
  | .flagsOrText => "int, str or flags"
  | .enum => "int or enum"
  | .timestamp => "str, timestamp or null"
  | .imageHash => "str, image hash or null"

/-- What a bound counts. -/
inductive Measure where
  | value
  | characters
  | items
  deriving DecidableEq

/-- The measure in words, after a number. -/
def Measure.label : Measure → String
  | .value => ""
  | .characters => " characters long"
  | .items => " items"

/-- A condition on candidates of a kind that is taken. -/
inductive Constraint where
  | within (bounds : Bounds) (measure : Measure)
  | signed64
  | unsigned64
  | snowflakeText
  | colorText
  | bitSetText
  | timestampText
  | wireYears
  | imageHashText
  | noCommas
  deriving DecidableEq

/-- The condition in words. -/
def Constraint.label : Constraint → String
  | .within bounds measure => bounds.text measure.label
  | .signed64 => "a 64 bit integer"
  | .unsigned64 => "a non-negative 64 bit integer"
  | .snowflakeText => "a decimal snowflake"
  | .colorText => "a #RRGGBB color"
  | .bitSetText => "a decimal bit set"
  | .timestampText => "an ISO 8601 timestamp"
  | .wireYears => "a timestamp between the years 0 and 9999"
  | .imageHashText => "a 32 digit hex hash"
  | .noCommas => "items without commas"

/-- Why a candidate is refused: it is of a kind that is not taken, it breaks a
condition, or a nested object's own attribute refused its member. -/
inductive Rejection where
  | kind (taken : InputKind)
  | constraint (condition : Constraint)
  | member (name : String) (rejection : Rejection) (received : String)
  deriving DecidableEq

namespace Rejection

/-- Whether the candidate's kind is what was wrong. -/
def isKind : Rejection → Bool
  | .kind _ => true
  | .constraint _ | .member _ _ _ => false

/-- The report of a refusal, around what would have been taken. -/
def report (rejection : Rejection) (name expected received : String) : String :=
  "`" ++ name ++ "` " ++ (if rejection.isKind then "can" else "must") ++ " be " ++
    expected ++ ", got " ++ received

/-- What would have been taken. -/
def expected : Rejection → String
  | .kind taken => taken.label
  | .constraint condition => condition.label
  | .member name rejection received =>
      rejection.report name rejection.expected received

end Rejection

/-- A refused candidate: the attribute, the reason and what was received. -/
structure ValidationError where
  name : String
  rejection : Rejection
  received : String
  deriving DecidableEq

/-- The report of a refused candidate. -/
def ValidationError.message (e : ValidationError) : String :=
  e.rejection.report e.name e.rejection.expected e.received

end AuditFields
