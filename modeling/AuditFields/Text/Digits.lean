/-
Digits and the integers written with them.  A reader consumes the whole text:
an optional sign, then digits only.  Neither blanks nor separators are read.
-/

namespace AuditFields.Text

/-- Value of a digit in a base of at most sixteen.  The letters `a` to `f` of
either case stand for ten to fifteen. -/
def digitValue? (base : Nat) (c : Char) : Option Nat :=
  let value :=
    if '0' ≤ c ∧ c ≤ '9' then c.toNat - 48
    else if 'a' ≤ c ∧ c ≤ 'f' then c.toNat - 87
    else if 'A' ≤ c ∧ c ≤ 'F' then c.toNat - 55
    else base
  if value < base then some value else none

/-- Why a text is no integer of the wanted range. -/
inductive NumeralError where
  | empty
  | invalidDigit
  | tooLarge
  | tooSmall
  | zero
  deriving DecidableEq, Repr

/-- Wording of each failure. -/
def NumeralError.message : NumeralError → String
  | .empty => "cannot parse integer from empty string"
  | .invalidDigit => "invalid digit found in string"
  | .tooLarge => "number too large to fit in target type"
  | .tooSmall => "number too small to fit in target type"
  | .zero => "number would be zero for non-zero type"

/-- Read digits onto a value that has been read so far.  The characters are
taken in order, so the first fault met is the one reported. -/
def readDigits (base limit : Nat) (overflow : NumeralError) :
    Nat → List Char → Except NumeralError Nat
  | value, [] => .ok value
  | value, c :: rest =>
      match digitValue? base c with
      | none => .error .invalidDigit
      | some digit =>
          if value * base + digit ≤ limit then
            readDigits base limit overflow (value * base + digit) rest
          else .error overflow

/-- Read at least one digit. -/
def readDigits1 (base limit : Nat) (overflow : NumeralError) :
    List Char → Except NumeralError Nat
  | [] => .error .invalidDigit
  | digits => readDigits base limit overflow 0 digits

/-- Read an integer from zero to a limit.  One plus sign may stand in front. -/
def readNatural (base limit : Nat) : List Char → Except NumeralError Nat
  | [] => .error .empty
  | '+' :: digits => readDigits1 base limit .tooLarge digits
  | digits => readDigits1 base limit .tooLarge digits

/-- Read a decimal integer whose magnitude is at most `negative` below zero
and at most `positive` above it.  One sign may stand in front. -/
def readInteger (negative positive : Nat) :
    List Char → Except NumeralError Int
  | [] => .error .empty
  | '+' :: digits =>
      (readDigits1 10 positive .tooLarge digits).map Int.ofNat
  | '-' :: digits =>
      (readDigits1 10 negative .tooSmall digits).map fun value => -(value : Int)
  | digits =>
      (readDigits1 10 positive .tooLarge digits).map Int.ofNat

/-- Read a decimal integer of 64 bits without a sign. -/
def readUInt64 (cs : List Char) : Except NumeralError Nat :=
  readNatural 10 0xFFFFFFFFFFFFFFFF cs

/-- Read a decimal integer of 128 bits with a sign. -/
def readInt128 (cs : List Char) : Except NumeralError Int :=
  readInteger 0x80000000000000000000000000000000 0x7FFFFFFFFFFFFFFFFFFFFFFFFFFFFFFF cs

/-- The decimal digits at the start of a text, and what follows them. -/
def splitDigits (cs : List Char) : List Char × List Char :=
  (cs.takeWhile Char.isDigit, cs.dropWhile Char.isDigit)

/-- The number that decimal digits denote. -/
def digitsValue (cs : List Char) : Nat :=
  cs.foldl (fun value c => value * 10 + (c.toNat - 48)) 0

/-- Decimal text of a natural number. -/
def decimal (n : Nat) : String :=
  String.ofList (Nat.toDigits 10 n)

/-- Decimal text of an integer. -/
def decimalInt (n : Int) : String :=
  if n < 0 then "-" ++ decimal n.natAbs else decimal n.natAbs

/-- Hexadecimal text with small letters and no leading zeros. -/
def hexLower (n : Nat) : String :=
  String.ofList (Nat.toDigits 16 n)

/-- Digits of a number padded with zeros on the left up to a width. -/
def padded (base width n : Nat) : List Char :=
  let digits := Nat.toDigits base n
  List.replicate (width - digits.length) '0' ++ digits

end AuditFields.Text
