/-
Products and quotients of finite doubles.  Each result is rounded once, to the
nearest double and from a tie to the even one.
-/
import AuditFields.Number.Double

namespace AuditFields.Double

/-- The double nearest to a quotient of natural numbers; past the greatest one
it is infinite. -/
def ofRatio (negative : Bool) (num den : Nat) : Double :=
  match BinaryFormat.double.round? num den with
  | none => .infinity negative
  | some (significand, exponent) => .ofParts negative significand exponent

/-- Magnitude of a finite number as a quotient of natural numbers. -/
def ratio (d : Double) : Nat × Nat :=
  BinaryFormat.scaleDown d.significand 1 (-d.exponent)

/-- The product of two finite numbers. -/
def mul (a b : Double) : Double :=
  ofRatio (a.isNegative ≠ b.isNegative) (a.ratio.1 * b.ratio.1) (a.ratio.2 * b.ratio.2)

/-- The quotient of two finite numbers, the second one other than zero. -/
def div (a b : Double) : Double :=
  ofRatio (a.isNegative ≠ b.isNegative) (a.ratio.1 * b.ratio.2) (a.ratio.2 * b.ratio.1)

/-- The double nearest to a power of ten.  The last finite one is `10 ^ 308`. -/
def powerOfTen (power : Nat) : Double :=
  Decimal.toDouble ⟨false, 1, power⟩

/-- A natural number times a power of ten, in rounded steps: the number goes to
a double first and is then multiplied or divided by a rounded power.  Below
`10 ^ (-308)` it is divided twice, and below `10 ^ (-616)` nothing is left of it.
The result may be a few last places off the double nearest to the product. -/
def scaleByTen (negative : Bool) (n : Nat) (power : Int) : Double :=
  let start := ofRatio negative n 1
  if n = 0 then start
  else if 308 < power then .infinity negative
  else if 0 ≤ power then start.mul (powerOfTen power.toNat)
  else if -308 ≤ power then start.div (powerOfTen (-power).toNat)
  else if -616 ≤ power then
    (start.div (powerOfTen 308)).div (powerOfTen (-power - 308).toNat)
  else ofRatio negative 0 1

end AuditFields.Double
