/-
Instants that a text can stand for.  The date of a text lies in the years of
four digits, and its offset is less than a day, so that the instant leaves those
years by less than a day.  Only the sixtieth second of a minute is read as a leap
second.  So the instants that text or Unix time make are those of which the years
decide whether they survive as text.
-/
import AuditFields.Proofs.TimestampText

namespace AuditFields

namespace Timestamp

open Calendar

/-- The largest offset in seconds: a minute less than a day. -/
def maxOffset : Int := 86340

/-- The value of digits is bounded by their count. -/
theorem fixedDigits?_lt {count value n : Nat} {cs rest : List Char}
    (hread : fixedDigits? count value cs = some (n, rest)) :
    n < (value + 1) * Nat.pow 10 count := by
  induction count generalizing value cs with
  | zero =>
      simp only [fixedDigits?, Option.some.injEq, Prod.mk.injEq] at hread
      change n < (value + 1) * 1
      omega
  | succ count ih =>
      cases cs with
      | nil => contradiction
      | cons c tail =>
          unfold fixedDigits? at hread
          split at hread
          · rename_i hdigit
            have hcode : c.toNat ≤ 57 := by
              simp only [Char.isDigit, Bool.and_eq_true, decide_eq_true_eq] at hdigit
              exact UInt32.le_iff_toNat_le.1 hdigit.2
            have hstep : value * 10 + (c.toNat - 48) + 1 ≤ (value + 1) * 10 := by omega
            calc
              n < (value * 10 + (c.toNat - 48) + 1) * Nat.pow 10 count := ih hread
              _ ≤ (value + 1) * 10 * Nat.pow 10 count := Nat.mul_le_mul_right _ hstep
              _ = (value + 1) * (10 * Nat.pow 10 count) := Nat.mul_assoc _ _ _
              _ = (value + 1) * Nat.pow 10 (count + 1) := by
                rw [Nat.mul_comm 10]
                rfl
          · contradiction

/-- A fraction is less than a second. -/
theorem fractionMicros?_lt {cs rest : List Char} {micros : Nat}
    (hread : fractionMicros? cs = some (micros, rest)) : micros < 1000000 := by
  unfold fractionMicros? at hread
  split at hread
  · dsimp only at hread
    split at hread
    · contradiction
    · obtain ⟨⟨digits, _⟩, hdigits, hmicros⟩ := Option.map_eq_some_iff.1 hread
      obtain ⟨rfl, -⟩ := Prod.mk.inj hmicros
      exact fixedDigits?_lt hdigits
  · simp only [Option.some.injEq, Prod.mk.injEq] at hread
    omega

theorem offset_bounds {cs : List Char} {offset : Int}
    (hoffset : offsetMinutes? cs = some offset) :
    -maxOffset ≤ offset * 60 ∧ offset * 60 ≤ maxOffset := by
  unfold offsetMinutes? at hoffset
  split at hoffset
  · simp at hoffset
    simp [maxOffset, ← hoffset]
  · simp at hoffset
    simp [maxOffset, ← hoffset]
  · simp only [Option.bind_eq_bind, Option.bind_eq_some_iff, Prod.exists] at hoffset
    obtain ⟨hours, _, -, _, -, minutes, _, -, hoffset⟩ := hoffset
    split at hoffset
    · contradiction
    · rename_i hinside
      simp only [not_or, Nat.not_le] at hinside
      split at hoffset
      · rw [← Option.some.inj hoffset, maxOffset]
        omega
      · split at hoffset
        · rw [← Option.some.inj hoffset, maxOffset]
          omega
        · contradiction
  · contradiction

/-- The parts of a text that is read: a date of the years of four digits, a time
of day and an offset of less than a day.  Its leap seconds end minutes. -/
theorem parts_of_ofChars? {cs : List Char} {t : Timestamp} (ht : ofChars? cs = some t) :
    ∃ (date : CivilDate) (clock offset : Int),
      date.isValid = true ∧ 0 ≤ date.year ∧ date.year ≤ 9999 ∧ 0 ≤ clock ∧ clock < 86400 ∧
        -maxOffset ≤ offset * 60 ∧ offset * 60 ≤ maxOffset ∧
          t.seconds = (date.toDay - epochDay) * 86400 + clock - offset * 60 ∧
            (1000000 ≤ t.micros → clock % 60 = 59) := by
  rw [ofChars?] at ht
  obtain ⟨⟨year, _⟩, hyear, ht⟩ := Option.bind_eq_some_iff.1 ht
  obtain ⟨_, -, ht⟩ := Option.bind_eq_some_iff.1 ht
  obtain ⟨⟨month, _⟩, -, ht⟩ := Option.bind_eq_some_iff.1 ht
  obtain ⟨_, -, ht⟩ := Option.bind_eq_some_iff.1 ht
  obtain ⟨⟨day, _⟩, -, ht⟩ := Option.bind_eq_some_iff.1 ht
  obtain ⟨_, -, ht⟩ := Option.bind_eq_some_iff.1 ht
  obtain ⟨⟨hour, _⟩, -, ht⟩ := Option.bind_eq_some_iff.1 ht
  obtain ⟨_, -, ht⟩ := Option.bind_eq_some_iff.1 ht
  obtain ⟨⟨minute, _⟩, -, ht⟩ := Option.bind_eq_some_iff.1 ht
  obtain ⟨_, -, ht⟩ := Option.bind_eq_some_iff.1 ht
  obtain ⟨⟨second, _⟩, -, ht⟩ := Option.bind_eq_some_iff.1 ht
  obtain ⟨⟨micros, _⟩, hfraction, ht⟩ := Option.bind_eq_some_iff.1 ht
  obtain ⟨offset, hoffset, hparts⟩ := Option.bind_eq_some_iff.1 ht
  dsimp only at hparts
  have hyears : year < 10000 := fixedDigits?_lt hyear
  have hmicros := fractionMicros?_lt hfraction
  obtain ⟨hleast, hmost⟩ := offset_bounds hoffset
  split at hparts
  · rename_i hvalid
    obtain ⟨hdate, hhour, hminute, hsecond⟩ := hvalid
    obtain ⟨hseconds, hshown⟩ := ofParts?_eq_some_iff.1 hparts
    have hclock : hour * 3600 + minute * 60 + (if second = 60 then 59 else second) < 86400 := by
      split <;> omega
    refine ⟨⟨year, month, day⟩, _, offset, hdate, Int.natCast_nonneg year, ?_, ?_, ?_, hleast,
      hmost, hseconds, ?_⟩
    · change (year : Int) ≤ 9999
      omega
    · omega
    · omega
    · intro hleap
      by_cases hsixty : second = 60
      · rw [if_pos hsixty]
        omega
      · rw [if_neg hsixty] at hshown
        omega
  · contradiction

/-- The instant that a text stands for is off the years of four digits by no more
than an offset. -/
theorem seconds_bounds_of_ofChars? {cs : List Char} {t : Timestamp} (ht : ofChars? cs = some t) :
    firstWireSecond - maxOffset ≤ t.seconds ∧ t.seconds ≤ lastWireSecond + maxOffset := by
  obtain ⟨date, clock, offset, hdate, hfirst, hlast, hmidnight, hclock, hleast, hmost, hseconds,
    -⟩ := parts_of_ofChars? ht
  obtain ⟨hbegin, hend⟩ := CivilDate.toDay_bounds hdate
  simp only [daysBeforeYear] at hbegin hend
  rw [hseconds, firstWireSecond, lastWireSecond, epochDay]
  omega

theorem ofChars?_of_ofText {s : String} {t : Timestamp} (ht : ofText s = .ok t) :
    ofChars? s.toList = some t := by
  rw [ofText] at ht
  split at ht
  · split at ht
    · rename_i read hread
      rw [hread, Except.ok.inj ht]
    · contradiction
  · contradiction

/-- A text stands for a leap second at the end of a minute only. -/
theorem leapEndsMinute_of_ofText {s : String} {t : Timestamp} (ht : ofText s = .ok t) :
    t.LeapEndsMinute := by
  obtain ⟨date, clock, offset, -, -, -, -, -, -, -, hseconds, hleap⟩ :=
    parts_of_ofChars? (ofChars?_of_ofText ht)
  intro hmicros
  have hlast := hleap hmicros
  rw [hseconds]
  omega

/-- Which instants survive as text.  Just those of the years of four digits are read from
it at all, and they are read as the instants that their text shows.  These are the same
unless a leap second lies within a minute, as none does that text or Unix time make.  Whole
Unix seconds make just the instants of these years that have no fraction. -/
theorem text_readback_iff (t : Timestamp) (seconds : Int) :
    (t.isWireRepresentable = true ↔ ofText t.text = .ok t.shown) ∧
    (t.isWireRepresentable = false ↔ ∃ e, ofText t.text = .error e) ∧
    (ofText t.text = .ok t ↔ t.isWireRepresentable = true ∧ t.LeapEndsMinute) ∧
    (((∃ s, ofText s = .ok t) ∨ ∃ unix nanos, ofUnix? unix nanos = some t) →
      (t.isWireRepresentable = true ↔ ofText t.text = .ok t)) ∧
    (ofSeconds seconds = .ok t ↔
      t.isWireRepresentable = true ∧ t.seconds = seconds ∧ t.micros = 0) ∧
    ((∃ made, ofSeconds seconds = .ok made) ↔
      -62167219200 ≤ seconds ∧ seconds ≤ 253402300799) := by
  refine ⟨?_, ?_, ofText_text_eq_ok_self_iff, ?_, ofSeconds_eq_ok_iff, exists_ofSeconds_eq_ok_iff⟩
  · rw [ofText_text]
    cases t.isWireRepresentable <;> simp
  · rw [ofText_text]
    cases t.isWireRepresentable <;> simp
  · intro ht
    have hleap : t.LeapEndsMinute := by
      rcases ht with ⟨s, hs⟩ | ⟨unix, nanos, hunix⟩
      · exact leapEndsMinute_of_ofText hs
      · exact (ofUnix?_eq_some_iff.1 hunix).2.1
    rw [ofText_text_eq_ok_self_iff, and_iff_left hleap]

/-- A leap second at the end of a year is read, and survives. -/
theorem text_readback_new_year :
    ofText "2016-12-31T23:59:60.5Z" = .ok ⟨1483228799, 1500000, by decide⟩ ∧
      ofText (text ⟨1483228799, 1500000, by decide⟩) =
        .ok ⟨1483228799, 1500000, by decide⟩ := by
  have hread : ofText "2016-12-31T23:59:60.5Z" = .ok ⟨1483228799, 1500000, by decide⟩ := rfl
  obtain ⟨-, -, -, hmade, -⟩ := text_readback_iff ⟨1483228799, 1500000, by decide⟩ 1483228799
  exact ⟨hread, (hmade (Or.inl ⟨_, hread⟩)).1 (by decide)⟩

/-- A leap second that is put after the thirtieth second of a minute has a text, which is
the one of the second thereafter. -/
theorem leap_second_within_minute_lost :
    isWireRepresentable ⟨30, 1500000, by decide⟩ = true ∧
      text ⟨30, 1500000, by decide⟩ = "1970-01-01T00:00:31.500000+00:00" ∧
      ofText (text ⟨30, 1500000, by decide⟩) = .ok ⟨31, 500000, by decide⟩ ∧
      ofText (text ⟨30, 1500000, by decide⟩) ≠ .ok ⟨30, 1500000, by decide⟩ := by
  have htext : text ⟨30, 1500000, by decide⟩ = "1970-01-01T00:00:31.500000+00:00" := by
    decide +kernel
  have hread : ofText (text ⟨30, 1500000, by decide⟩) = .ok ⟨31, 500000, by decide⟩ := by
    rw [htext]
    rfl
  refine ⟨by decide, htext, hread, ?_⟩
  rw [hread]
  nofun

end Timestamp

end AuditFields
