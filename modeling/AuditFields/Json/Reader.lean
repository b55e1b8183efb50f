/-
Reading JSON text.  Whole literals that fit a signed or unsigned 64 bit
integer are integers, every other number is a double.  Of members with one
key the last counts.
-/
import AuditFields.Json.Basic
import AuditFields.Json.Literal
import AuditFields.Text.Digits

namespace AuditFields.Json

/-- Why a text is no JSON value. -/
inductive ReadError where
  | unexpectedEnd
  | unexpected (c : Char)
  | badEscape
  | numberOutOfRange
  | trailing
  deriving DecidableEq

/-- What a reader returns: a value and the text after it. -/
abbrev Reading (α : Type) := Except ReadError (α × List Char)

def skipBlanks (cs : List Char) : List Char :=
  cs.dropWhile fun c => c = ' ' ∨ c = '\n' ∨ c = '\r' ∨ c = '\t'

def expected {α : Type} : List Char → Except ReadError α
  | [] => .error .unexpectedEnd
  | c :: _ => .error (.unexpected c)

/-- Read fixed characters. -/
def readWord {α : Type} (value : α) : List Char → List Char → Reading α
  | [], rest => .ok (value, rest)
  | _ :: _, [] => .error .unexpectedEnd
  | w :: word, c :: rest =>
      if w = c then readWord value word rest else .error (.unexpected c)

/-- Four hexadecimal digits. -/
def readUnit : List Char → Reading Nat
  | a :: b :: c :: d :: rest =>
      match Text.digitValue? 16 a, Text.digitValue? 16 b, Text.digitValue? 16 c,
        Text.digitValue? 16 d with
      | some a, some b, some c, some d =>
          .ok (((a * 16 + b) * 16 + c) * 16 + d, rest)
      | _, _, _, _ => .error .badEscape
  | _ => .error .unexpectedEnd

/-- The character of an escape by code units.  A high surrogate needs a low
one after it. -/
def readUnits (cs : List Char) : Except ReadError (Char × List Char) := do
  let (unit, rest) ← readUnit cs
  if 0xD800 ≤ unit ∧ unit < 0xDC00 then
    match rest with
    | '\\' :: 'u' :: rest =>
        let (low, rest) ← readUnit rest
        if 0xDC00 ≤ low ∧ low < 0xE000 then
          .ok (Char.ofNat (0x10000 + (unit - 0xD800) * 0x400 + (low - 0xDC00)), rest)
        else .error .badEscape
    | _ => .error .badEscape
  else if 0xDC00 ≤ unit ∧ unit < 0xE000 then .error .badEscape
  else .ok (Char.ofNat unit, rest)

/-- The character of an escape, from after its backslash. -/
def readEscape : List Char → Reading Char
  | '"' :: rest => .ok ('"', rest)
  | '\\' :: rest => .ok ('\\', rest)
  | '/' :: rest => .ok ('/', rest)
  | 'b' :: rest => .ok (Char.ofNat 8, rest)
  | 'f' :: rest => .ok (Char.ofNat 12, rest)
  | 'n' :: rest => .ok ('\n', rest)
  | 'r' :: rest => .ok ('\r', rest)
  | 't' :: rest => .ok ('\t', rest)
  | 'u' :: rest => readUnits rest
  | cs => expected cs

/-- The characters of a string up to its closing quote, the last one first. -/
def readString : Nat → List Char → List Char → Except ReadError (String × List Char)
  | 0, _, _ => .error .unexpectedEnd
  | _ + 1, _, [] => .error .unexpectedEnd
  | _ + 1, read, '"' :: rest => .ok (String.ofList read.reverse, rest)
  | fuel + 1, read, '\\' :: rest => do
      let (c, rest) ← readEscape rest
      readString fuel (c :: read) rest
  | fuel + 1, read, c :: rest =>
      if c.toNat < 32 then .error (.unexpected c)
      else readString fuel (c :: read) rest

/-- At least one digit. -/
def readDigits1 (cs : List Char) : Reading (List Char) :=
  match Text.splitDigits cs with
  | ([], rest) => expected rest
  | read => .ok read

/-- The digits after a point, if there is one. -/
def readFraction : List Char → Reading (Option (List Char))
  | '.' :: rest => (readDigits1 rest).map fun (digits, rest) => (some digits, rest)
  | rest => .ok (none, rest)

/-- The power of ten after an `e`, if there is one. -/
def readPower : List Char → Reading (Option Int)
  | c :: rest =>
      if c = 'e' ∨ c = 'E' then
        match rest with
        | '-' :: rest =>
            (readDigits1 rest).map fun (digits, rest) =>
              (some (-(Text.digitsValue digits : Int)), rest)
        | '+' :: rest =>
            (readDigits1 rest).map fun (digits, rest) =>
              (some (Text.digitsValue digits : Int), rest)
        | rest =>
            (readDigits1 rest).map fun (digits, rest) =>
              (some (Text.digitsValue digits : Int), rest)
      else .ok (none, c :: rest)
  | [] => .ok (none, [])

/-- The number of a double, which has to be finite. -/
def ofDouble (value : Double) : Except ReadError Json :=
  if h : value.isFinite = true then .ok (.number (.float value h))
  else .error .numberOutOfRange

/-- The number of a literal: an integer if it is one and in range. -/
def ofLiteral (literal : NumberLiteral) : Except ReadError Json :=
  match literal.integer? with
  | some value =>
      if h : -0x8000000000000000 ≤ value ∧ value < 0x10000000000000000 then
        .ok (.ofInt value h)
      else ofDouble literal.toDouble
  | none => ofDouble literal.toDouble

/-- A number.  Its whole part has no needless zero in front. -/
def readNumber (cs : List Char) : Except ReadError (Json × List Char) := do
  let (negative, cs) := match cs with
    | '-' :: rest => (true, rest)
    | rest => (false, rest)
  let (whole, rest) ← readDigits1 cs
  if whole.length ≠ 1 ∧ whole.head? = some '0' then .error (.unexpected '0')
  else
    let (fraction, rest) ← readFraction rest
    let (power, rest) ← readPower rest
    let value ← ofLiteral ⟨negative, whole, fraction, power⟩
    .ok (value, rest)

mutual

/-- A value, with blanks allowed before it. -/
def readValue : Nat → List Char → Reading Json
  | 0, _ => .error .unexpectedEnd
  | fuel + 1, cs =>
      match skipBlanks cs with
      | '"' :: rest =>
          (readString fuel [] rest).map fun (s, rest) => (.string s, rest)
      | '[' :: rest =>
          match skipBlanks rest with
          | ']' :: rest => .ok (.array [], rest)
          | rest => readItems fuel [] rest
      | 'n' :: rest => readWord .null "ull".toList rest
      | 't' :: rest => readWord (.bool true) "rue".toList rest
      | 'f' :: rest => readWord (.bool false) "alse".toList rest
      | '\x7b' :: rest =>
          match skipBlanks rest with
          | '\x7d' :: rest => .ok (.object [], rest)
          | rest => readMembers fuel [] rest
      | c :: rest =>
          if c = '-' ∨ c.isDigit then readNumber (c :: rest)
          else .error (.unexpected c)
      | [] => .error .unexpectedEnd

/-- The items of an array up to its closing bracket, the last one first. -/
def readItems : Nat → List Json → List Char → Reading Json
  | 0, _, _ => .error .unexpectedEnd
  | fuel + 1, items, cs =>
      match readValue fuel cs with
      | .error e => .error e
      | .ok (item, rest) =>
          match skipBlanks rest with
          | ',' :: rest => readItems fuel (item :: items) rest
          | ']' :: rest => .ok (.array (item :: items).reverse, rest)
          | rest => expected rest

/-- The members of an object up to its closing brace. -/
def readMembers : Nat → WireObject → List Char → Reading Json
  | 0, _, _ => .error .unexpectedEnd
  | fuel + 1, members, cs =>
      match skipBlanks cs with
      | '"' :: rest =>
          match readString fuel [] rest with
          | .error e => .error e
          | .ok (key, rest) =>
              match skipBlanks rest with
              | ':' :: rest =>
                  match readValue fuel rest with
                  | .error e => .error e
                  | .ok (value, rest) =>
                      match skipBlanks rest with
                      | ',' :: rest => readMembers fuel (members.insert key value) rest
                      | '\x7d' :: rest => .ok (.object (members.insert key value), rest)
                      | rest => expected rest
              | rest => expected rest
      | rest => expected rest

end

/-- The value a whole text holds. -/
def read (s : String) : Except ReadError Json := do
  let cs := s.toList
  let (value, rest) ← readValue (2 * cs.length + 2) cs
  match skipBlanks rest with
  | [] => .ok value
  | _ => .error .trailing

end AuditFields.Json
