/-
Number literals.  A literal is read as a significand of 64 bits and a power of
ten, so digits past the significand are lost, and the double it denotes comes
out of rounded steps.
-/
import AuditFields.Number.Arithmetic
import AuditFields.Text.Digits

namespace AuditFields.Json

/-- A number as it is written: a sign, the digits before the point, those after
it, and the power of ten after an `e`. -/
structure NumberLiteral where
  negative : Bool
  whole : List Char
  fraction : Option (List Char)
  power : Option Int

/-- Put digits at the end of a significand for as long as it stays within 64
bits.  The digits from the first that does not fit are left over. -/
def fitDigits : Nat → List Char → Nat × List Char
  | significand, [] => (significand, [])
  | significand, c :: rest =>
      let longer := significand * 10 + (c.toNat - 48)
      if longer ≤ 0xFFFFFFFFFFFFFFFF then fitDigits longer rest
      else (significand, c :: rest)

namespace NumberLiteral

/-- The digits after the point. -/
def places (literal : NumberLiteral) : List Char :=
  literal.fraction.getD []

/-- The significand a literal is read with, and the power of ten beside it.  A
digit left over before the point raises the power, one that fits after the
point lowers it, and one left over after the point is dropped. -/
def scaled (literal : NumberLiteral) : Nat × Int :=
  let (significand, lostWhole) := fitDigits 0 literal.whole
  let (significand, lostPlaces) := fitDigits significand literal.places
  (significand,
    literal.power.getD 0 + (lostWhole.length : Int)
      - ((literal.places.length : Int) - (lostPlaces.length : Int)))

/-- The double a literal denotes, infinite when it is out of range. -/
def toDouble (literal : NumberLiteral) : Double :=
  let (significand, power) := literal.scaled
  Double.scaleByTen literal.negative significand power

/-- The integer of a literal with neither point nor power.  A negative zero is
no integer. -/
def integer? (literal : NumberLiteral) : Option Int :=
  match literal.fraction, literal.power with
  | none, none =>
      let magnitude := Text.digitsValue literal.whole
      if literal.negative then
        if magnitude = 0 then none else some (-(magnitude : Int))
      else some (magnitude : Int)
  | _, _ => none

end NumberLiteral

end AuditFields.Json
