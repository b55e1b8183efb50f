/-
Timestamps: instants of universal time in microseconds, written in the profile
of ISO 8601 that RFC 3339 defines.  A leap second counts on within the second
before it.
-/
import AuditFields.Json.Mismatch
import AuditFields.Value.Calendar

namespace AuditFields

/-- An instant.  Inside a leap second `seconds` is that of the second before,
and `micros` counts from a million on.  Any second may have a leap second after
it. -/
structure Timestamp where
  seconds : Int
  micros : Nat
  micros_lt : micros < 2000000
  deriving DecidableEq

namespace Timestamp

/-- Days from the year zero to the Unix epoch. -/
def epochDay : Int := 719528

/-- The instant of a second and the microseconds within it.  Whether the second may
have a leap second is not asked. -/
def ofParts? (seconds : Int) (micros : Nat) : Option Timestamp :=
  if h : micros < 2000000 then some ⟨seconds, micros, h⟩ else none

/-- Day of the year zero count. -/
def dayNumber (t : Timestamp) : Int :=
  t.seconds / 86400 + epochDay

def date (t : Timestamp) : CivilDate :=
  .ofDay t.dayNumber

/-- Seconds since midnight. -/
def secondOfDay (t : Timestamp) : Nat :=
  (t.seconds % 86400).toNat

/-- The instant of Unix seconds and nanoseconds.  Only whole microseconds are
kept, a billion nanoseconds or more lie in a leap second, which Unix time has at
the end of a minute only, and the calendar ends with the years -262143 and
262142. -/
def ofUnix? (seconds : Int) (nanos : Nat) : Option Timestamp :=
  if 1000000000 ≤ nanos ∧ seconds % 60 ≠ 59 then none
  else
    match ofParts? seconds (nanos / 1000) with
    | none => none
    | some t => if -262143 ≤ t.date.year ∧ t.date.year ≤ 262142 then some t else none

/-- Nanoseconds within the second. -/
def nanos (t : Timestamp) : Nat :=
  t.micros * 1000

/-- Whether the year has a four digit form, without which the text is not read. -/
def isWireRepresentable (t : Timestamp) : Bool :=
  0 ≤ t.date.year ∧ t.date.year ≤ 9999

/-- Instants are ordered in time. -/
def compare (a b : Timestamp) : Ordering :=
  (Ord.compare a.seconds b.seconds).then (Ord.compare a.micros b.micros)

/-- Why no timestamp could be made. -/
inductive ParseError where
  | format
  | parsing
  | range
  deriving DecidableEq

def ParseError.message : ParseError → String
  | .format => "not an ISO 8601 datetime"
  | .parsing => "ISO 8601 datetime is invalid"
  | .range => "datetime is outside the years 0 to 9999"

/-- The instant of whole Unix seconds, within the years of four digits. -/
def ofSeconds (seconds : Int) : Except ParseError Timestamp :=
  match ofUnix? seconds 0 with
  | none => .error .range
  | some t => if t.isWireRepresentable then .ok t else .error .range

/-- A year of at least four digits, with a sign outside the years 0 to 9999. -/
def yearText (year : Int) : List Char :=
  let digits := Text.padded 10 4 year.natAbs
  if year < 0 then '-' :: digits
  else if 9999 < year then '+' :: digits
  else digits

/-- Text in universal time with six digits of the second's fraction. -/
def text (t : Timestamp) : String :=
  let date := t.date
  let second := t.secondOfDay
  let leap := if 1000000 ≤ t.micros then 1 else 0
  String.ofList <|
    yearText date.year ++ '-' :: Text.padded 10 2 date.month ++
      '-' :: Text.padded 10 2 date.day ++
      'T' :: Text.padded 10 2 (second / 3600) ++
      ':' :: Text.padded 10 2 (second / 60 % 60) ++
      ':' :: Text.padded 10 2 (second % 60 + leap) ++
      '.' :: Text.padded 10 6 (t.micros % 1000000) ++ "+00:00".toList

/-- Exactly as many decimal digits as asked for. -/
def fixedDigits? : Nat → Nat → List Char → Option (Nat × List Char)
  | 0, value, rest => some (value, rest)
  | _ + 1, _, [] => none
  | count + 1, value, c :: rest =>
      if c.isDigit then fixedDigits? count (value * 10 + (c.toNat - 48)) rest else none

/-- One given character. -/
def mark? (c : Char) : List Char → Option (List Char)
  | [] => none
  | d :: rest => if d = c then some rest else none

/-- Microseconds of a fraction.  Digits past the sixth are dropped. -/
def fractionMicros? : List Char → Option (Nat × List Char)
  | '.' :: rest =>
      let digits := rest.takeWhile Char.isDigit
      if digits = [] then none
      else
        (fixedDigits? 6 0 (digits.take 6 ++ List.replicate (6 - digits.length) '0')).map
          fun (micros, _) => (micros, rest.dropWhile Char.isDigit)
  | rest => some (0, rest)

/-- Minutes by which the written time is ahead of universal time.  Nothing may
follow. -/
def offsetMinutes? : List Char → Option Int
  | ['Z'] => some 0
  | ['z'] => some 0
  | sign :: rest => do
      let (hours, rest) ← fixedDigits? 2 0 rest
      let rest ← mark? ':' rest
      let (minutes, rest) ← fixedDigits? 2 0 rest
      let total : Int := (hours * 60 + minutes : Nat)
      if rest ≠ [] ∨ 24 ≤ hours ∨ 60 ≤ minutes then none
      else if sign = '+' then some total
      else if sign = '-' ∨ sign.toNat = 0x2212 then some (-total)
      else none
  | [] => none

/-- Read a date, a `T`, a time and an offset. -/
def ofChars? (cs : List Char) : Option Timestamp := do
  let (year, cs) ← fixedDigits? 4 0 cs
  let cs ← mark? '-' cs
  let (month, cs) ← fixedDigits? 2 0 cs
  let cs ← mark? '-' cs
  let (day, cs) ← fixedDigits? 2 0 cs
  let cs ← mark? 'T' cs
  let (hour, cs) ← fixedDigits? 2 0 cs
  let cs ← mark? ':' cs
  let (minute, cs) ← fixedDigits? 2 0 cs
  let cs ← mark? ':' cs
  let (second, cs) ← fixedDigits? 2 0 cs
  let (micros, cs) ← fractionMicros? cs
  let offset ← offsetMinutes? cs
  let date : CivilDate := ⟨year, month, day⟩
  if date.isValid ∧ hour < 24 ∧ minute < 60 ∧ second ≤ 60 then
    let leap := second = 60
    let clock : Int := (hour * 3600 + minute * 60 + (if leap then 59 else second) : Nat)
    ofParts? ((date.toDay - epochDay) * 86400 + clock - offset * 60)
      (if leap then micros + 1000000 else micros)
  else none

/-- Read a timestamp in any offset from universal time. -/
def ofText (s : String) : Except ParseError Timestamp :=
  if s.toList.contains 'T' then
    match ofChars? s.toList with
    | some t => .ok t
    | none => .error .parsing
  else .error .format

def ofJson (json : Json) : Except Mismatch Timestamp := do
  let s ← json.stringOr "a string"
  match ofText s with
  | .ok t => .ok t
  | .error e => .error (.refused e.message)

def toJson (t : Timestamp) : Json :=
  .string t.text

end Timestamp

end AuditFields
