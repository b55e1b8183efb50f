/-
Days and dates.  Every day has exactly one date, which the calendar knows and
which counts back to the day, and the years begin in order.
-/
import AuditFields.Value.Calendar

namespace AuditFields

namespace Calendar

theorem daysBeforeYear_lt {first last : Int} (h : first < last) :
    daysBeforeYear first < daysBeforeYear last := by
  simp only [daysBeforeYear]
  omega

theorem le_yearOfDay_iff (year day : Int) :
    year ≤ yearOfDay day ↔ daysBeforeYear year ≤ day := by
  obtain ⟨hbegin, hend⟩ := yearOfDay_bounds day
  constructor
  · intro hle
    rcases Int.lt_or_eq_of_le hle with hlt | heq
    · have hbefore := daysBeforeYear_lt hlt
      omega
    · rw [heq]
      exact hbegin
  · intro hday
    refine Int.not_lt.1 fun hlate => ?_
    have hnext : yearOfDay day + 1 ≤ year := by omega
    rcases Int.lt_or_eq_of_le hnext with hlt | heq
    · have hbefore := daysBeforeYear_lt hlt
      omega
    · rw [heq] at hend
      omega

theorem yearOfDay_le_iff (year day : Int) :
    yearOfDay day ≤ year ↔ day < daysBeforeYear (year + 1) := by
  have hnext := le_yearOfDay_iff (year + 1) day
  omega

/-- A year has as many days as its months together. -/
theorem daysBeforeYear_succ_eq_add_months (year : Int) :
    daysBeforeYear (year + 1) =
      daysBeforeYear year + ((monthLengths (isLeap year)).foldr (· + ·) 0 : Nat) := by
  rw [daysBeforeYear_succ]
  cases isLeap year <;> rfl

/-- The month found for a day is one of those listed, the day lies within it,
and the months before it make up the rest. -/
theorem monthDay_spec (first : Nat) {lengths : List Nat} {day : Nat}
    (hday : day < lengths.foldr (· + ·) 0) :
    ∃ index length,
      lengths[index]? = some length ∧
        (monthDay first lengths day).1 = first + index ∧
        1 ≤ (monthDay first lengths day).2 ∧
        (monthDay first lengths day).2 ≤ length ∧
        (lengths.take index).foldr (· + ·) 0 + (monthDay first lengths day).2 = day + 1 := by
  induction lengths generalizing first day with
  | nil => simp at hday
  | cons length rest ih =>
      by_cases hfirst : day < length
      · refine ⟨0, length, rfl, ?_⟩
        simp only [monthDay, hfirst, if_true, List.take_zero, List.foldr_nil]
        omega
      · have hrest : day - length < rest.foldr (· + ·) 0 := by
          simp only [List.foldr_cons] at hday
          omega
        obtain ⟨index, found, hfound, hmonth, hpos, hle, hsum⟩ :=
          ih (first + 1) hrest
        refine ⟨index + 1, found, by simpa using hfound, ?_⟩
        simp only [monthDay, hfirst, if_false, List.take_succ_cons, List.foldr_cons]
        omega

end Calendar

namespace CivilDate

open Calendar

/-- The parts of a day's date. -/
theorem ofDay_spec (day : Int) :
    ∃ index length,
      (monthLengths (isLeap (yearOfDay day)))[index]? = some length ∧
        (ofDay day).year = yearOfDay day ∧
        (ofDay day).month = index + 1 ∧
        1 ≤ (ofDay day).day ∧ (ofDay day).day ≤ length ∧
        (daysBeforeMonth (isLeap (yearOfDay day)) (index + 1) : Int) + (ofDay day).day =
          day - daysBeforeYear (yearOfDay day) + 1 := by
  obtain ⟨hbegin, hend⟩ := yearOfDay_bounds day
  rw [daysBeforeYear_succ_eq_add_months] at hend
  have hday : (day - daysBeforeYear (yearOfDay day)).toNat <
      (monthLengths (isLeap (yearOfDay day))).foldr (· + ·) 0 := by omega
  obtain ⟨index, length, hlength, hmonth, hpos, hle, hsum⟩ := monthDay_spec 1 hday
  refine ⟨index, length, hlength, rfl, hmonth.trans (Nat.add_comm 1 index), hpos, hle, ?_⟩
  have hdate : (ofDay day).day = (monthDay 1 (monthLengths (isLeap (yearOfDay day)))
      (day - daysBeforeYear (yearOfDay day)).toNat).2 := rfl
  simp only [hdate, daysBeforeMonth, Nat.add_sub_cancel]
  omega

@[simp] theorem year_ofDay (day : Int) : (ofDay day).year = yearOfDay day := rfl

theorem isValid_ofDay (day : Int) : (ofDay day).isValid = true := by
  obtain ⟨index, length, hlength, -, hmonth, hpos, hle, -⟩ := ofDay_spec day
  simp [isValid, hmonth, hlength, hpos, hle]

theorem toDay_ofDay (day : Int) : (ofDay day).toDay = day := by
  obtain ⟨index, length, -, -, hmonth, -, -, hsum⟩ := ofDay_spec day
  rw [toDay, hmonth, year_ofDay]
  omega

/-- A valid date has a month of two digits and a day of two digits. -/
theorem month_day_le_of_isValid {date : CivilDate} (hvalid : date.isValid = true) :
    date.month ≤ 12 ∧ date.day ≤ 31 := by
  rw [isValid] at hvalid
  split at hvalid
  · rename_i length hlength
    simp only [decide_eq_true_eq] at hvalid
    obtain ⟨hindex, -⟩ := List.getElem?_eq_some_iff.1 hlength
    have hlong : ∀ leap, ∀ days ∈ monthLengths leap, days ≤ 31 := by decide
    have hdays := hlong _ length (List.mem_of_getElem? hlength)
    simp only [monthLengths, List.length_cons, List.length_nil] at hindex
    omega
  · contradiction

theorem take_add_le_foldr {lengths : List Nat} {index length : Nat}
    (hlength : lengths[index]? = some length) :
    (lengths.take index).foldr (· + ·) 0 + length ≤ lengths.foldr (· + ·) 0 := by
  induction lengths generalizing index with
  | nil => simp at hlength
  | cons first rest ih =>
      cases index with
      | zero =>
          simp only [List.getElem?_cons_zero, Option.some.injEq] at hlength
          simp only [List.take_zero, List.foldr_nil, List.foldr_cons]
          omega
      | succ index =>
          have hrest := ih (by simpa using hlength)
          simp only [List.take_succ_cons, List.foldr_cons]
          omega

/-- The day of a valid date is one of its year. -/
theorem toDay_bounds {date : CivilDate} (hvalid : date.isValid = true) :
    daysBeforeYear date.year ≤ date.toDay ∧ date.toDay < daysBeforeYear (date.year + 1) := by
  rw [isValid] at hvalid
  split at hvalid
  · rename_i length hlength
    simp only [decide_eq_true_eq] at hvalid
    have hmonths := take_add_le_foldr hlength
    rw [daysBeforeYear_succ_eq_add_months, toDay, daysBeforeMonth]
    omega
  · contradiction

end CivilDate

end AuditFields
