/-
Colours of three bytes.  On the wire a colour is a whole number, in text it is
`#RRGGBB`.
-/
import AuditFields.Json.Mismatch

namespace AuditFields

/-- A colour by its red, green and blue parts. -/
structure Color where
  red : UInt8
  green : UInt8
  blue : UInt8
  deriving DecidableEq

namespace Color

/-- The greatest number that is a colour. -/
def maxValue : Nat := 0xFFFFFF

/-- Black, which stands for no colour. -/
def black : Color := ⟨0, 0, 0⟩

/-- The colour of a number. -/
def ofNat? (n : Nat) : Option Color :=
  if n ≤ maxValue then
    some ⟨UInt8.ofNat (n / 65536), UInt8.ofNat (n / 256), UInt8.ofNat n⟩
  else none

def toNat (color : Color) : Nat :=
  color.red.toNat * 65536 + color.green.toNat * 256 + color.blue.toNat

theorem toNat_le (color : Color) : color.toNat ≤ maxValue := by
  have hred := color.red.toNat_lt
  have hgreen := color.green.toNat_lt
  have hblue := color.blue.toNat_lt
  unfold toNat maxValue
  omega

/-- The number of a colour, its parts side by side. -/
def toUInt32 (color : Color) : UInt32 :=
  color.red.toUInt32 <<< 16 ||| color.green.toUInt32 <<< 8 ||| color.blue.toUInt32

/-- Why a text is no colour. -/
inductive ParseError where
  | format
  deriving DecidableEq

def ParseError.message : ParseError → String
  | .format => "color is not in #RRGGBB format"

/-- Read `#` and six characters of a hexadecimal number.  The first may be a
plus sign. -/
def ofText (s : String) : Except ParseError Color :=
  match s.toList with
  | '#' :: digits =>
      if digits.length = 6 then
        match Text.readNatural 16 (0xFFFFFFFF) digits with
        | .error _ => .error .format
        | .ok n =>
            match ofNat? n with
            | some color => .ok color
            | none => .error .format
      else .error .format
  | _ => .error .format

/-- Text with capital letters. -/
def text (color : Color) : String :=
  String.ofList ('#' :: ([color.red, color.green, color.blue].flatMap fun part =>
    (Text.padded 16 2 part.toNat).map Char.toUpper))

/-- Read a number. -/
def ofJson (json : Json) : Except Mismatch Color :=
  match json with
  | .number (.int value _) =>
      if value < 0 then .error (.refused "color is negative")
      else
        match ofNat? value.toNat with
        | some color => .ok color
        | none => .error (.refused "color out of range")
  | _ => .error (.wrongType json "a 24-bit color integer")

/-- A number serialized without a codec takes 64 bits. -/
def toJson (color : Color) : Json :=
  .ofUInt64 color.toUInt32.toUInt64

end Color

end AuditFields
