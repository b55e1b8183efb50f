/-
Binary floating point numbers of 64 bits, as bit patterns.  Equality is
equality of patterns, so the two zeros differ and a number that is no number
equals itself.  Rounding is exact: a quotient of natural numbers goes to the
nearest number of a format, a tie to the even neighbour.
-/

namespace AuditFields

/-- A floating point number of 64 bits. -/
structure Double where
  bits : UInt64
  deriving DecidableEq

namespace Double

/-- The leading bit of a significand, which patterns leave out. -/
def hiddenBit : Nat := 0x10000000000000

def isNegative (d : Double) : Bool :=
  2048 * hiddenBit ≤ d.bits.toNat

def exponentField (d : Double) : Nat :=
  d.bits.toNat / hiddenBit % 2048

def fractionField (d : Double) : Nat :=
  d.bits.toNat % hiddenBit

/-- Neither infinite nor without a value. -/
def isFinite (d : Double) : Bool :=
  d.exponentField ≠ 2047

def isNaN (d : Double) : Bool :=
  d.exponentField = 2047 ∧ d.fractionField ≠ 0

/-- A finite number has the magnitude `significand * 2 ^ exponent`. -/
def significand (d : Double) : Nat :=
  if d.exponentField = 0 then d.fractionField else hiddenBit + d.fractionField

def exponent (d : Double) : Int :=
  if d.exponentField = 0 then -1074 else (d.exponentField : Int) - 1075

/-- The pattern with the given fields. -/
def ofFields (negative : Bool) (exponentField fractionField : Nat) : Double :=
  ⟨UInt64.ofNat
    (((if negative then 2048 else 0) + exponentField) * hiddenBit + fractionField)⟩

def infinity (negative : Bool) : Double :=
  ofFields negative 2047 0

def nan : Double :=
  ofFields false 2047 (hiddenBit / 2)

/-- The number with a significand of at most 53 bits and an exponent in range. -/
def ofParts (negative : Bool) (significand : Nat) (exponent : Int) : Double :=
  if significand < hiddenBit then ofFields negative 0 significand
  else ofFields negative (exponent + 1075).toNat (significand - hiddenBit)

end Double

/-- A binary format: the bits of its significands and the exponents of the
last place, from the least to the greatest. -/
structure BinaryFormat where
  precision : Nat
  minExponent : Int
  maxExponent : Int

namespace BinaryFormat

def double : BinaryFormat := ⟨53, -1074, 971⟩

def single : BinaryFormat := ⟨24, -149, 104⟩

/-- The natural number nearest to a quotient, the even one of two. -/
def nearest (num den : Nat) : Nat :=
  let quotient := num / den
  let rest := num % den
  if 2 * rest < den then quotient
  else if den < 2 * rest then quotient + 1
  else if quotient % 2 = 0 then quotient
  else quotient + 1

/-- A quotient over a power of two, as a quotient of natural numbers. -/
def scaleDown (num den : Nat) (exponent : Int) : Nat × Nat :=
  if 0 ≤ exponent then (num, den <<< exponent.toNat)
  else (num <<< (-exponent).toNat, den)

/-- Significand and exponent of the number nearest to a quotient, or nothing
when the quotient is past the greatest number. -/
def round? (format : BinaryFormat) (num den : Nat) : Option (Nat × Int) :=
  if num = 0 then some (0, format.minExponent)
  else
    let guess : Int :=
      (num.log2 : Int) - (den.log2 : Int) - ((format.precision : Int) - 1)
    let (n, d) := scaleDown num den guess
    let tight := if n / d < 1 <<< (format.precision - 1) then guess - 1 else guess
    let exponent := max tight format.minExponent
    let (n, d) := scaleDown num den exponent
    let significand := nearest n d
    let (significand, exponent) :=
      if significand = 1 <<< format.precision then (significand / 2, exponent + 1)
      else (significand, exponent)
    if format.maxExponent < exponent then none else some (significand, exponent)

end BinaryFormat

/-- A decimal number with the magnitude `digits * 10 ^ exponent`. -/
structure Decimal where
  negative : Bool
  digits : Nat
  exponent : Int
  deriving DecidableEq

namespace Decimal

/-- The magnitude as a quotient of natural numbers. -/
def ratio (d : Decimal) : Nat × Nat :=
  if 0 ≤ d.exponent then (d.digits * Nat.pow 10 d.exponent.toNat, 1)
  else (d.digits, Nat.pow 10 (-d.exponent).toNat)

/-- The number of a format nearest to a decimal.  Exponents far outside the
range of 64 bits are decided without their powers of ten. -/
def round? (d : Decimal) (format : BinaryFormat) : Option (Nat × Int) :=
  let magnitude : Int := ((Nat.toDigits 10 d.digits).length : Int) + d.exponent
  if d.digits = 0 ∨ magnitude < -400 then some (0, format.minExponent)
  else if 400 < magnitude then none
  else format.round? d.ratio.1 d.ratio.2

/-- The double nearest to a decimal; past the greatest one it is infinite. -/
def toDouble (d : Decimal) : Double :=
  match d.round? .double with
  | none => .infinity d.negative
  | some (significand, exponent) => .ofParts d.negative significand exponent

/-- The decimal rounded to 32 bits first.  Every such number is a double. -/
def toSingle (d : Decimal) : Double :=
  match d.round? .single with
  | none => .infinity d.negative
  | some (significand, exponent) =>
      let (n, den) := BinaryFormat.scaleDown significand 1 (-exponent)
      match BinaryFormat.double.round? n den with
      | none => .infinity d.negative
      | some (significand, exponent) => .ofParts d.negative significand exponent

end Decimal

end AuditFields
