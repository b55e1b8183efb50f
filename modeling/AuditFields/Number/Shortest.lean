/-
The shortest decimal text of a double: of all decimals that read back as the
number, those with the fewest digits, and of these the nearest to it.
-/
import AuditFields.Number.Double
import AuditFields.Text.Digits

namespace AuditFields

/-- Which of two equally near decimals is taken. -/
inductive Tie where
  | toEven
  | upward
  deriving DecidableEq

/-- How a format writes a finite number.  Whole numbers may carry `.0`, and
exponents outside a range may be written with an `e`. -/
structure FloatStyle where
  tie : Tie
  wholeFraction : Bool
  positional : Option (Int × Int)

namespace Double

/-- The decimals of one exponent, seen from a number.  `step` is their
distance and `quarter` a quarter of the number's last place, on one scale. -/
structure Grid where
  step : Nat
  quarter : Nat

/-- The grid of the multiples of `10 ^ power` for a last place of `2 ^ exponent`. -/
def grid (exponent power : Int) : Grid where
  step := Nat.pow 10 power.toNat <<< (2 - exponent).toNat
  quarter := Nat.pow 10 (-power).toNat <<< (exponent - 2).toNat

/-- The ends of the interval that rounds to a number, in quarters of its last
place.  Below a power of two the numbers lie twice as dense. -/
def interval (significand : Nat) (exponent : Int) : Nat × Nat :=
  let gap := if significand = hiddenBit ∧ -1074 < exponent then 1 else 2
  (4 * significand - gap, 4 * significand + 2)

/-- Whether a decimal of the grid reads back as the number.  The ends of the
interval do so exactly when the significand is even. -/
def readsBack (significand : Nat) (exponent : Int) (g : Grid) (digits : Nat) : Bool :=
  let (low, high) := interval significand exponent
  if significand % 2 = 0 then
    low * g.quarter ≤ digits * g.step ∧ digits * g.step ≤ high * g.quarter
  else
    low * g.quarter < digits * g.step ∧ digits * g.step < high * g.quarter

/-- The better of the number's two neighbours on the grid, if one reads back. -/
def gridHit? (tie : Tie) (significand : Nat) (exponent : Int) (g : Grid) : Option Nat :=
  let value := 4 * significand * g.quarter
  let below := value / g.step
  let above := below + 1
  match readsBack significand exponent g below, readsBack significand exponent g above with
  | false, false => none
  | true, false => some below
  | false, true => some above
  | true, true =>
      let rest := value - below * g.step
      if 2 * rest < g.step then some below
      else if g.step < 2 * rest then some above
      else
        match tie with
        | .upward => some above
        | .toEven => some (if below % 2 = 0 then below else above)

/-- Search ever finer grids.  Seventeen digits always suffice. -/
def searchGrids (tie : Tie) (significand : Nat) (exponent : Int) :
    Nat → Int → Nat × Int
  | 0, power => (0, power)
  | more + 1, power =>
      match gridHit? tie significand exponent (grid exponent power) with
      | some digits => (digits, power)
      | none => searchGrids tie significand exponent more (power - 1)

/-- Take off zeros at the end of a significand. -/
def dropZeros : Nat → Nat → Int → Nat × Int
  | 0, digits, power => (digits, power)
  | more + 1, digits, power =>
      if digits % 10 = 0 then dropZeros more (digits / 10) (power + 1)
      else (digits, power)

/-- Power of ten of the first digit of `significand * 2 ^ exponent`. -/
def decimalExponent (significand : Nat) (exponent : Int) : Int :=
  let guess := ((significand.log2 : Int) + exponent) * 30103 / 100000
  let g := grid exponent (guess + 1)
  if g.step ≤ 4 * significand * g.quarter then guess + 1 else guess

/-- Shortest digits of a finite number other than zero, and the power of ten
of the last one. -/
def shortest (tie : Tie) (d : Double) : Nat × Int :=
  let power := decimalExponent d.significand d.exponent
  let (digits, power) := searchGrids tie d.significand d.exponent 18 power
  dropZeros 20 digits power

/-- Digits with a point at its place, never with an exponent. -/
def positionalText (style : FloatStyle) (digits : List Char) (power : Int) : List Char :=
  if 0 ≤ power then
    digits ++ List.replicate power.toNat '0' ++ (if style.wholeFraction then ['.', '0'] else [])
  else
    let places := (-power).toNat
    if digits.length ≤ places then
      ['0', '.'] ++ List.replicate (places - digits.length) '0' ++ digits
    else
      digits.take (digits.length - places) ++ '.' :: digits.drop (digits.length - places)

/-- One digit, a point if more follow, and the exponent with its sign. -/
def exponentText (digits : List Char) (exponent : Int) : List Char :=
  let sign := if exponent < 0 then '-' else '+'
  let tail := 'e' :: sign :: Nat.toDigits 10 exponent.natAbs
  match digits with
  | [] => tail
  | [digit] => digit :: tail
  | digit :: rest => digit :: '.' :: rest ++ tail

/-- Text of a finite magnitude. -/
def magnitudeText (style : FloatStyle) (d : Double) : List Char :=
  if d.significand = 0 then positionalText style ['0'] 0
  else
    let (digits, power) := shortest style.tie d
    let digits := Nat.toDigits 10 digits
    let exponent := power + (digits.length : Int) - 1
    match style.positional with
    | none => positionalText style digits power
    | some (first, last) =>
        if first ≤ exponent ∧ exponent ≤ last then positionalText style digits power
        else exponentText digits exponent

/-- Text of a number: `NaN`, `inf`, or digits, with a sign below zero. -/
def text (style : FloatStyle) (d : Double) : String :=
  if d.isNaN then "NaN"
  else
    let magnitude := if d.isFinite then magnitudeText style d else ['i', 'n', 'f']
    String.ofList (if d.isNegative then '-' :: magnitude else magnitude)

end Double

end AuditFields
