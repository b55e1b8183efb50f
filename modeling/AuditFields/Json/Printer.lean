/-
Compact JSON text: no blanks, members in key order, and an escape only where
the grammar of strings demands one.
-/
import AuditFields.Json.Basic
import AuditFields.Number.Shortest

namespace AuditFields.Json

/-- Numbers always show a fraction, and an exponent when the first digit
stands before the fifth place or from the seventeenth whole digit on. -/
def floatStyle : FloatStyle where
  tie := .toEven
  wholeFraction := true
  positional := some (-5, 15)

def numberText : JsonNumber → String
  | .int value _ => Text.decimalInt value
  | .float value _ => value.text floatStyle

/-- The form of one character inside a string. -/
def escapeChar (c : Char) : List Char :=
  if c = '"' then ['\\', '"']
  else if c = '\\' then ['\\', '\\']
  else if c = '\n' then ['\\', 'n']
  else if c = '\r' then ['\\', 'r']
  else if c = '\t' then ['\\', 't']
  else if c.toNat = 8 then ['\\', 'b']
  else if c.toNat = 12 then ['\\', 'f']
  else if c.toNat < 32 then '\\' :: 'u' :: Text.padded 16 4 c.toNat
  else [c]

def stringChars (s : String) : List Char :=
  '"' :: (s.toList.flatMap escapeChar ++ ['"'])

mutual

/-- The characters of a value's text. -/
def chars : Json → List Char
  | .null => "null".toList
  | .bool true => "true".toList
  | .bool false => "false".toList
  | .number value => (numberText value).toList
  | .string value => stringChars value
  | .array items => '[' :: itemChars items
  | .object members => '\x7b' :: memberChars members

/-- The items of an array up to its closing bracket. -/
def itemChars : List Json → List Char
  | [] => [']']
  | [item] => chars item ++ [']']
  | item :: rest => chars item ++ ',' :: itemChars rest

/-- The members of an object up to its closing brace. -/
def memberChars : List (String × Json) → List Char
  | [] => ['\x7d']
  | [(key, value)] => stringChars key ++ ':' :: chars value ++ ['\x7d']
  | (key, value) :: rest =>
      stringChars key ++ ':' :: chars value ++ ',' :: memberChars rest

end

/-- Compact text of a value. -/
def text (json : Json) : String :=
  String.ofList json.chars

end AuditFields.Json
