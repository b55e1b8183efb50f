/-
Decimal numerals, as people write numbers: digits with a point among them, and
a power of ten after an `e`.
-/
import AuditFields.Number.Double
import AuditFields.Text.Digits

namespace AuditFields

namespace Decimal

/-- The power of ten at the end of a numeral. -/
def ofPower? : List Char → Option Int
  | [] => some 0
  | c :: rest =>
      if c = 'e' ∨ c = 'E' then
        let (negative, digits) := match rest with
          | '-' :: digits => (true, digits)
          | '+' :: digits => (false, digits)
          | digits => (false, digits)
        if digits ≠ [] ∧ digits.all Char.isDigit then
          let power := (Text.digitsValue digits : Int)
          some (if negative then -power else power)
        else none
      else none

/-- The decimal of an unsigned numeral.  It has a digit on either side of its
point. -/
def ofUnsigned? (negative : Bool) (cs : List Char) : Option Decimal :=
  let (whole, rest) := Text.splitDigits cs
  let (places, rest) := match rest with
    | '.' :: rest => Text.splitDigits rest
    | rest => ([], rest)
  if whole = [] ∧ places = [] then none
  else
    (ofPower? rest).map fun power =>
      ⟨negative, Text.digitsValue (whole ++ places), power - (places.length : Int)⟩

/-- The decimal of a numeral. -/
def ofText? (s : String) : Option Decimal :=
  match s.toList with
  | '-' :: rest => ofUnsigned? true rest
  | '+' :: rest => ofUnsigned? false rest
  | rest => ofUnsigned? false rest

end Decimal

/-- The special numbers by name, or the number that a rounding gives a numeral. -/
def Double.ofText? (round : Decimal → Double) (s : String) : Option Double :=
  if s = "NaN" then some .nan
  else if s = "inf" then some (.infinity false)
  else if s = "-inf" then some (.infinity true)
  else (Decimal.ofText? s).map round

end AuditFields
