/-
Failures to read a JSON value as a typed one.
-/
import AuditFields.Json.Printer
import AuditFields.Text.Quoted

namespace AuditFields

/-- Why a JSON value does not hold the wanted type. -/
inductive Mismatch where
  | wrongType (found : Json) (expected : String)
  | wrongValue (found : Json) (expected : String)
  | refused (reason : String)
  deriving DecidableEq

/-- What a value is, as diagnostics call it. -/
def Json.kindText : Json → String
  | .null => "null"
  | .bool value => if value then "boolean `true`" else "boolean `false`"
  | .number (.int value _) => "integer `" ++ Text.decimalInt value ++ "`"
  | .number (.float value _) => "floating point `" ++ value.text Json.floatStyle ++ "`"
  | .string value => "string " ++ Text.quoted value
  | .array _ => "sequence"
  | .object _ => "map"

/-- Wording of each failure. -/
def Mismatch.message : Mismatch → String
  | .wrongType found expected =>
      "invalid type: " ++ found.kindText ++ ", expected " ++ expected
  | .wrongValue found expected =>
      "invalid value: " ++ found.kindText ++ ", expected " ++ expected
  | .refused reason => reason

/-- A whole number from zero to a limit, called `expected` when refused. -/
def Json.boundedNat (limit : Nat) (expected : String) (json : Json) :
    Except Mismatch Nat :=
  match json with
  | .number (.int value _) =>
      if 0 ≤ value ∧ value ≤ limit then .ok value.toNat
      else .error (.wrongValue json expected)
  | _ => .error (.wrongType json expected)

/-- A string, called `expected` when refused. -/
def Json.stringOr (expected : String) (json : Json) : Except Mismatch String :=
  match json with
  | .string value => .ok value
  | _ => .error (.wrongType json expected)

end AuditFields
