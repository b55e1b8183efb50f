/-
Timestamps and their text.  The text of an instant is read when its year has four
digits; a signed year is never read.  It is read as the instant that it shows, which
is another one for a leap second within a minute.  Unix seconds make a timestamp in
just these years.
-/
import AuditFields.Proofs.CivilCalendar
import AuditFields.Proofs.NumeralReadback

namespace AuditFields

namespace Timestamp

open Calendar Text

/-- The first second of the year zero. -/
def firstWireSecond : Int := -62167219200

/-- The last second of the year 9999. -/
def lastWireSecond : Int := 253402300799

/-- Instants whose year has four digits. -/
def InWireYears (t : Timestamp) : Prop :=
  firstWireSecond ≤ t.seconds ∧ t.seconds ≤ lastWireSecond

theorem isWireRepresentable_iff_year (t : Timestamp) :
    t.isWireRepresentable = true ↔ 0 ≤ t.date.year ∧ t.date.year ≤ 9999 := by
  rw [isWireRepresentable, decide_eq_true_eq]

/-- The years of four digits are an interval of seconds. -/
theorem isWireRepresentable_iff (t : Timestamp) :
    t.isWireRepresentable = true ↔ t.InWireYears := by
  have hfirst : 0 ≤ t.date.year ↔ 0 ≤ t.dayNumber := le_yearOfDay_iff 0 t.dayNumber
  have hlast : t.date.year ≤ 9999 ↔ t.dayNumber < 3652425 := yearOfDay_le_iff 9999 t.dayNumber
  rw [isWireRepresentable_iff_year, hfirst, hlast, InWireYears, firstWireSecond,
    lastWireSecond, dayNumber, epochDay]
  omega

@[simp] theorem ofParts?_self (t : Timestamp) : ofParts? t.seconds t.micros = some t :=
  dif_pos t.micros_lt

/-- Two digits hold every number below a hundred. -/
theorem length_toDigits_le_two {n : Nat} (hn : n < 100) : (Nat.toDigits 10 n).length ≤ 2 :=
  (Nat.length_toDigits_le_iff (by decide) (by decide)).2 hn

theorem yearText_of_isWireRepresentable {t : Timestamp} (ht : t.isWireRepresentable = true) :
    yearText t.date.year = padded 10 4 t.date.year.natAbs := by
  rw [isWireRepresentable_iff_year] at ht
  have hnonneg : ¬ t.date.year < 0 := by omega
  have hfour : ¬ 9999 < t.date.year := by omega
  simp [yearText, hnonneg, hfour]

theorem fractionMicros?_padded {micros : Nat} (hmicros : micros < 1000000) (zone : List Char) :
    fractionMicros? ('.' :: (padded 10 6 micros ++ '+' :: zone)) =
      some (micros, '+' :: zone) := by
  have hwidth : (Nat.toDigits 10 micros).length ≤ 6 :=
    (Nat.length_toDigits_le_iff (by decide) (by decide)).2 hmicros
  have hlength := length_padded hwidth
  have hdigits : ∀ c ∈ padded 10 6 micros, c.isDigit = true := fun _ hc =>
    isDigit_of_mem_padded hc
  have htake : (padded 10 6 micros ++ '+' :: zone).takeWhile Char.isDigit =
      padded 10 6 micros := by
    rw [List.takeWhile_append_of_pos hdigits]
    simp [Char.isDigit]
  have hdrop : (padded 10 6 micros ++ '+' :: zone).dropWhile Char.isDigit = '+' :: zone := by
    rw [List.dropWhile_append_of_pos hdigits]
    simp [Char.isDigit]
  have hne : padded 10 6 micros ≠ [] :=
    (isNumeral_padded (by decide) (by decide) 6 micros).ne_nil
  have hread := fixedDigits?_padded hwidth []
  simp only [fractionMicros?, htake, hdrop, hne, if_false, hlength, Nat.sub_self,
    List.replicate_zero]
  rw [List.take_of_length_le (Nat.le_of_eq hlength), hread]
  rfl

/-- Instants outside of leap seconds, or in one at the end of a minute. -/
def LeapEndsMinute (t : Timestamp) : Prop :=
  1000000 ≤ t.micros → t.seconds % 60 = 59

instance (t : Timestamp) : Decidable t.LeapEndsMinute :=
  inferInstanceAs (Decidable (1000000 ≤ t.micros → t.seconds % 60 = 59))

/-- The second that a text shows: a leap second is one more than the second before. -/
def shownSecond (t : Timestamp) : Nat :=
  t.secondOfDay % 60 + if 1000000 ≤ t.micros then 1 else 0

theorem shownSecond_eq_sixty_iff {t : Timestamp} (ht : t.LeapEndsMinute) :
    t.shownSecond = 60 ↔ 1000000 ≤ t.micros := by
  rw [LeapEndsMinute] at ht
  rw [shownSecond, secondOfDay]
  split <;> omega

theorem shownSecond_le (t : Timestamp) : t.shownSecond ≤ 60 := by
  rw [shownSecond]
  split <;> omega

/-- The clock that a text shows gives back the second of the day, with a leap
second taken for the one before it. -/
theorem clock_eq_secondOfDay {t : Timestamp} (ht : t.LeapEndsMinute) :
    t.secondOfDay / 3600 * 3600 + t.secondOfDay / 60 % 60 * 60 +
      (if t.shownSecond = 60 then 59 else t.shownSecond) = t.secondOfDay := by
  by_cases hmicros : 1000000 ≤ t.micros
  · have hshown := (shownSecond_eq_sixty_iff ht).2 hmicros
    have hlast : t.secondOfDay % 60 = 59 := by
      have hleap := ht hmicros
      rw [secondOfDay]
      omega
    rw [if_pos hshown]
    omega
  · have hshown : t.shownSecond = t.secondOfDay % 60 := by simp [shownSecond, hmicros]
    rw [if_neg (by omega), hshown]
    omega

/-- A mark and a number of two digits behind it are read. -/
theorem bind_mark?_padded {α : Type} {n : Nat} (hn : n < 100) (c : Char) (rest : List Char)
    (next : Nat × List Char → Option α) :
    ((mark? c (c :: (padded 10 2 n ++ rest))).bind fun cs => (fixedDigits? 2 0 cs).bind next) =
      next (n, rest) := by
  rw [mark?, if_pos rfl, Option.bind_some, fixedDigits?_padded (length_toDigits_le_two hn),
    Option.bind_some]

/-- The text of an instant in the years of four digits reads back, unless the instant
lies in a leap second within a minute. -/
theorem ofChars?_text {t : Timestamp} (ht : t.isWireRepresentable = true)
    (hleap : t.LeapEndsMinute) : ofChars? t.text.toList = some t := by
  have hvalid : t.date.isValid = true := CivilDate.isValid_ofDay t.dayNumber
  obtain ⟨hmonth, hday⟩ := CivilDate.month_day_le_of_isValid hvalid
  have hyears := t.isWireRepresentable_iff_year.1 ht
  have hyear : (Nat.toDigits 10 t.date.year.natAbs).length ≤ 4 :=
    (Nat.length_toDigits_le_iff (by decide) (by decide)).2 (by omega)
  have hmidnight : t.secondOfDay < 86400 := by
    rw [secondOfDay]
    omega
  have hshown := t.shownSecond_le
  have hdate : (⟨(t.date.year.natAbs : Int), t.date.month, t.date.day⟩ : CivilDate) = t.date := by
    rw [Int.natAbs_of_nonneg hyears.1]
  obtain ⟨zone, hzone, hoffset⟩ :
      ∃ zone, "+00:00".toList = '+' :: zone ∧ offsetMinutes? ('+' :: zone) = some 0 :=
    ⟨"00:00".toList, by decide, by decide⟩
  rw [text, String.toList_ofList, yearText_of_isWireRepresentable ht, hzone]
  simp only [List.append_assoc, List.cons_append]
  rw [← shownSecond]
  have hmicrosLt := Nat.mod_lt t.micros (show 0 < 1000000 by decide)
  have hclock : t.secondOfDay / 3600 < 24 ∧ t.secondOfDay / 60 % 60 < 60 ∧ t.shownSecond ≤ 60 :=
    by omega
  have hseconds : (t.date.toDay - epochDay) * 86400 + (t.secondOfDay : Int) - 0 * 60 =
      t.seconds := by
    rw [date, CivilDate.toDay_ofDay]
    rw [dayNumber, secondOfDay]
    omega
  have hmicros : (if t.shownSecond = 60 then t.micros % 1000000 + 1000000
      else t.micros % 1000000) = t.micros := by
    have hlt := t.micros_lt
    simp only [shownSecond_eq_sixty_iff hleap]
    split <;> omega
  -- one part of the text after the other
  rw [ofChars?]
  simp only [Option.bind_eq_bind]
  rw [fixedDigits?_padded hyear, Option.bind_some, bind_mark?_padded (by omega),
    bind_mark?_padded (by omega), bind_mark?_padded (by omega), bind_mark?_padded (by omega),
    bind_mark?_padded (by omega), fractionMicros?_padded hmicrosLt, Option.bind_some, hoffset,
    Option.bind_some, hdate, if_pos ⟨hvalid, hclock⟩, clock_eq_secondOfDay hleap, hseconds,
    hmicros, ofParts?_self]

/-- A text that does not begin with a digit is not read. -/
theorem ofChars?_cons_of_not_isDigit {c : Char} (hc : c.isDigit = false) (rest : List Char) :
    ofChars? (c :: rest) = none := by
  have hyear : fixedDigits? 4 0 (c :: rest) = none := by
    rw [fixedDigits?, hc]
    rfl
  rw [ofChars?, hyear]
  rfl

/-- A year that does not have four digits is written with a sign. -/
theorem yearText_of_not_isWireRepresentable {t : Timestamp}
    (ht : ¬ t.isWireRepresentable = true) :
    ∃ sign digits, sign.isDigit = false ∧ yearText t.date.year = sign :: digits := by
  rw [isWireRepresentable_iff_year] at ht
  by_cases hnegative : t.date.year < 0
  · refine ⟨'-', padded 10 4 t.date.year.natAbs, by decide, ?_⟩
    simp only [yearText, if_pos hnegative]
  · have hlong : 9999 < t.date.year := by omega
    refine ⟨'+', padded 10 4 t.date.year.natAbs, by decide, ?_⟩
    simp only [yearText, if_neg hnegative, if_pos hlong]

/-- A signed year is not read. -/
theorem ofChars?_text_of_not_isWireRepresentable {t : Timestamp}
    (ht : ¬ t.isWireRepresentable = true) : ofChars? t.text.toList = none := by
  obtain ⟨sign, digits, hsign, hyear⟩ := yearText_of_not_isWireRepresentable ht
  rw [text, String.toList_ofList, hyear]
  exact ofChars?_cons_of_not_isDigit hsign _

theorem contains_T_text (t : Timestamp) : t.text.toList.contains 'T' = true := by
  simp [text]

/-- The instant that a text shows.  A leap second within a minute is shown as the second
after it. -/
def shown (t : Timestamp) : Timestamp :=
  if t.LeapEndsMinute then t
  else ⟨t.seconds + 1, t.micros - 1000000, Nat.lt_of_le_of_lt (Nat.sub_le _ _) t.micros_lt⟩

theorem shown_of_leapEndsMinute {t : Timestamp} (ht : t.LeapEndsMinute) : t.shown = t :=
  if_pos ht

theorem shown_of_not_leapEndsMinute {t : Timestamp} (ht : ¬ t.LeapEndsMinute) :
    t.shown.seconds = t.seconds + 1 ∧ t.shown.micros = t.micros - 1000000 := by
  rw [shown, if_neg ht]
  exact ⟨rfl, rfl⟩

theorem not_leapEndsMinute_iff {t : Timestamp} :
    ¬ t.LeapEndsMinute ↔ 1000000 ≤ t.micros ∧ t.seconds % 60 ≠ 59 :=
  Classical.not_imp

/-- Just a leap second within a minute is shown as another instant. -/
theorem shown_eq_self_iff {t : Timestamp} : t.shown = t ↔ t.LeapEndsMinute := by
  refine ⟨fun hshown => ?_, shown_of_leapEndsMinute⟩
  by_cases ht : t.LeapEndsMinute
  · exact ht
  · have hnext := (shown_of_not_leapEndsMinute ht).1
    rw [hshown] at hnext
    omega

theorem leapEndsMinute_shown (t : Timestamp) : t.shown.LeapEndsMinute := by
  by_cases ht : t.LeapEndsMinute
  · rwa [shown_of_leapEndsMinute ht]
  · intro hleap
    have hlt := t.micros_lt
    rw [(shown_of_not_leapEndsMinute ht).2] at hleap
    omega

theorem dayNumber_shown (t : Timestamp) : t.shown.dayNumber = t.dayNumber := by
  by_cases ht : t.LeapEndsMinute
  · rw [shown_of_leapEndsMinute ht]
  · obtain ⟨-, hwithin⟩ := not_leapEndsMinute_iff.1 ht
    rw [dayNumber, dayNumber, (shown_of_not_leapEndsMinute ht).1]
    omega

theorem isWireRepresentable_shown (t : Timestamp) :
    t.shown.isWireRepresentable = t.isWireRepresentable := by
  rw [isWireRepresentable, isWireRepresentable, date, date, dayNumber_shown]

/-- The clock goes on by a second within the minute, and this is the second that a leap
second is shown as. -/
theorem text_shown (t : Timestamp) : t.shown.text = t.text := by
  by_cases ht : t.LeapEndsMinute
  · rw [shown_of_leapEndsMinute ht]
  · obtain ⟨hleap, hwithin⟩ := not_leapEndsMinute_iff.1 ht
    obtain ⟨hseconds, hmicros⟩ := shown_of_not_leapEndsMinute ht
    have hlt := t.micros_lt
    have hclock : t.shown.secondOfDay / 3600 = t.secondOfDay / 3600 ∧
        t.shown.secondOfDay / 60 % 60 = t.secondOfDay / 60 % 60 ∧
          t.shown.secondOfDay % 60 = t.secondOfDay % 60 + 1 := by
      rw [secondOfDay, secondOfDay, hseconds]
      omega
    have hfraction : t.shown.micros % 1000000 = t.micros % 1000000 := by omega
    have hplain : ¬ 1000000 ≤ t.shown.micros := by omega
    simp only [text, date, dayNumber_shown, hclock, hfraction, if_pos hleap, if_neg hplain,
      Nat.add_zero]

/-- The text of an instant is read as the instant that it shows, in the years of four
digits, and beyond them not at all. -/
theorem ofText_text (t : Timestamp) :
    ofText t.text = if t.isWireRepresentable then .ok t.shown else .error .parsing := by
  rw [ofText, if_pos t.contains_T_text]
  by_cases ht : t.isWireRepresentable = true
  · rw [← isWireRepresentable_shown] at ht
    have hread := ofChars?_text ht t.leapEndsMinute_shown
    rw [text_shown] at hread
    rw [hread, if_pos (t.isWireRepresentable_shown ▸ ht)]
  · rw [ofChars?_text_of_not_isWireRepresentable ht, if_neg ht]

/-- The instants that their text gives back. -/
theorem ofText_text_eq_ok_self_iff {t : Timestamp} :
    ofText t.text = .ok t ↔ t.isWireRepresentable = true ∧ t.LeapEndsMinute := by
  rw [ofText_text, ← shown_eq_self_iff]
  cases t.isWireRepresentable <;> simp

theorem ofParts?_eq_some_iff {seconds : Int} {micros : Nat} {t : Timestamp} :
    ofParts? seconds micros = some t ↔ t.seconds = seconds ∧ t.micros = micros := by
  constructor
  · intro ht
    unfold ofParts? at ht
    split at ht
    · rw [← Option.some.inj ht]
      exact ⟨rfl, rfl⟩
    · contradiction
  · rintro ⟨rfl, rfl⟩
    exact t.ofParts?_self

/-- An instant is made of Unix time within the years of the calendar, less what is below
a microsecond.  Its leap seconds end minutes. -/
theorem ofUnix?_eq_some_iff {seconds : Int} {nanos : Nat} {t : Timestamp} :
    ofUnix? seconds nanos = some t ↔
      (t.seconds = seconds ∧ t.micros = nanos / 1000) ∧ t.LeapEndsMinute ∧
        -262143 ≤ t.date.year ∧ t.date.year ≤ 262142 := by
  rw [← ofParts?_eq_some_iff, ofUnix?]
  by_cases hwithin : 1000000000 ≤ nanos ∧ seconds % 60 ≠ 59
  · rw [if_pos hwithin]
    refine ⟨nofun, ?_⟩
    rintro ⟨hparts, hleap, -⟩
    obtain ⟨rfl, hmicros⟩ := ofParts?_eq_some_iff.1 hparts
    exact absurd (hleap (by omega)) hwithin.2
  · rw [if_neg hwithin]
    cases hparts : ofParts? seconds (nanos / 1000) with
    | none => exact ⟨nofun, fun ht => nomatch ht.1⟩
    | some made =>
        obtain ⟨rfl, hmicros⟩ := ofParts?_eq_some_iff.1 hparts
        have hleap : made.LeapEndsMinute := by
          intro hmade
          omega
        dsimp only
        rw [Option.ite_none_right_eq_some, Option.some.injEq]
        constructor
        · rintro ⟨hyears, rfl⟩
          exact ⟨rfl, hleap, hyears⟩
        · rintro ⟨rfl, -, hyears⟩
          exact ⟨hyears, rfl⟩

/-- Whole seconds are taken in the years of four digits.  The calendar goes on far beyond
them. -/
theorem ofSeconds_eq_ok_iff {seconds : Int} {t : Timestamp} :
    ofSeconds seconds = .ok t ↔
      t.isWireRepresentable = true ∧ t.seconds = seconds ∧ t.micros = 0 := by
  constructor
  · intro ht
    unfold ofSeconds at ht
    split at ht
    · contradiction
    · rename_i made hmade
      split at ht
      · rename_i hyears
        obtain rfl := Except.ok.inj ht
        exact ⟨hyears, (ofUnix?_eq_some_iff.1 hmade).1⟩
      · contradiction
  · rintro ⟨hwire, hparts⟩
    have hyears := t.isWireRepresentable_iff_year.1 hwire
    have hleap : t.LeapEndsMinute := by
      intro hmicros
      omega
    have hmade : ofUnix? seconds 0 = some t :=
      ofUnix?_eq_some_iff.2 ⟨hparts, hleap, by omega, by omega⟩
    simp only [ofSeconds, hmade, if_pos hwire]

/-- Whole seconds make the instants of an interval. -/
theorem exists_ofSeconds_eq_ok_iff {seconds : Int} :
    (∃ t, ofSeconds seconds = .ok t) ↔ -62167219200 ≤ seconds ∧ seconds ≤ 253402300799 := by
  constructor
  · rintro ⟨t, ht⟩
    obtain ⟨hwire, rfl, -⟩ := ofSeconds_eq_ok_iff.1 ht
    exact t.isWireRepresentable_iff.1 hwire
  · intro hseconds
    let t : Timestamp := ⟨seconds, 0, by decide⟩
    exact ⟨t, ofSeconds_eq_ok_iff.2 ⟨t.isWireRepresentable_iff.2 hseconds, rfl, rfl⟩⟩

/-- The last instant that survives lies in a leap second. -/
example : (⟨253402300799, 1999999, by decide⟩ : Timestamp).text =
    "9999-12-31T23:59:60.999999+00:00" := by
  decide +kernel

end Timestamp

end AuditFields
