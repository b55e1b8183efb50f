/-
The civil calendar, reckoned backward and forward without end.  Days are
counted from the first day of the year zero, which is a leap year.
-/

namespace AuditFields

namespace Calendar

def isLeap (year : Int) : Bool :=
  year % 4 = 0 ∧ (year % 100 ≠ 0 ∨ year % 400 = 0)

/-- Days before the first day of a year. -/
def daysBeforeYear (year : Int) : Int :=
  365 * year + (year + 3) / 4 - (year + 99) / 100 + (year + 399) / 400

theorem daysBeforeYear_succ (year : Int) :
    daysBeforeYear (year + 1) =
      daysBeforeYear year + (if isLeap year then 366 else 365) := by
  unfold daysBeforeYear isLeap
  by_cases h4 : year % 4 = 0 <;> by_cases h100 : year % 100 = 0 <;>
    by_cases h400 : year % 400 = 0 <;> simp [h4, h100, h400] <;> omega

/-- The year that a day belongs to. -/
def yearOfDay (day : Int) : Int :=
  let guess := day * 400 / 146097
  if daysBeforeYear (guess + 1) ≤ day then guess + 1
  else if day < daysBeforeYear guess then guess - 1
  else guess

/-- A year begins on or before each of its days, and the next one after it. -/
theorem yearOfDay_bounds (day : Int) :
    daysBeforeYear (yearOfDay day) ≤ day ∧ day < daysBeforeYear (yearOfDay day + 1) := by
  unfold yearOfDay
  simp only
  split
  · rename_i h
    refine ⟨h, ?_⟩
    unfold daysBeforeYear
    omega
  · rename_i hlate
    split
    · rename_i hearly
      refine ⟨?_, by simpa using hearly⟩
      unfold daysBeforeYear at *
      omega
    · rename_i hearly
      omega

/-- Lengths of the months of a year. -/
def monthLengths (leap : Bool) : List Nat :=
  [31, if leap then 29 else 28, 31, 30, 31, 30, 31, 31, 30, 31, 30, 31]

/-- Days of a year before one of its months. -/
def daysBeforeMonth (leap : Bool) (month : Nat) : Nat :=
  ((monthLengths leap).take (month - 1)).foldr (· + ·) 0

/-- Month and day of the month, from the number of the first month listed and
the days past its start. -/
def monthDay : Nat → List Nat → Nat → Nat × Nat
  | month, [], day => (month, day + 1)
  | month, length :: rest, day =>
      if day < length then (month, day + 1)
      else monthDay (month + 1) rest (day - length)

end Calendar

/-- A date of the civil calendar. -/
structure CivilDate where
  year : Int
  month : Nat
  day : Nat
  deriving DecidableEq

namespace CivilDate

open Calendar

/-- The date of a day. -/
def ofDay (day : Int) : CivilDate :=
  let year := yearOfDay day
  let (month, dayOfMonth) :=
    monthDay 1 (monthLengths (isLeap year)) (day - daysBeforeYear year).toNat
  ⟨year, month, dayOfMonth⟩

/-- Whether the calendar has the date. -/
def isValid (date : CivilDate) : Bool :=
  match (monthLengths (isLeap date.year))[date.month - 1]? with
  | some length => 1 ≤ date.month ∧ 1 ≤ date.day ∧ date.day ≤ length
  | none => false

/-- The day of a date. -/
def toDay (date : CivilDate) : Int :=
  daysBeforeYear date.year +
    (daysBeforeMonth (isLeap date.year) date.month : Int) + (date.day : Int) - 1

end CivilDate

end AuditFields
