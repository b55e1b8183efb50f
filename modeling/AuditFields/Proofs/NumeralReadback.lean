/-
Numerals read back.  The digits that a number is written with denote that
number again, whether they are written as they are or padded with zeros.
-/
import AuditFields.Value.Timestamp

namespace AuditFields.Text

/-- A text of one digit at least, and nothing but digits of a base. -/
structure IsNumeral (base : Nat) (cs : List Char) : Prop where
  ne_nil : cs ≠ []
  digits : ∀ c ∈ cs, (digitValue? base c).isSome

/-- The character of a digit has the value of the digit. -/
theorem digitValue?_digitChar {base digit : Nat} (hbase : base ≤ 16) (hdigit : digit < base) :
    digitValue? base digit.digitChar = some digit := by
  have hall : ∀ d : Fin 16,
      (if '0' ≤ d.val.digitChar ∧ d.val.digitChar ≤ '9' then d.val.digitChar.toNat - 48
        else if 'a' ≤ d.val.digitChar ∧ d.val.digitChar ≤ 'f' then d.val.digitChar.toNat - 87
        else if 'A' ≤ d.val.digitChar ∧ d.val.digitChar ≤ 'F' then d.val.digitChar.toNat - 55
        else 16) = d.val := by decide
  have hvalue := hall ⟨digit, by omega⟩
  simp only at hvalue
  unfold digitValue?
  split at hvalue
  · rename_i hdecimal
    simp [hdecimal, hvalue, hdigit]
  · rename_i hdecimal
    split at hvalue
    · rename_i hlower
      simp [hdecimal, hlower, hvalue, hdigit]
    · rename_i hlower
      split at hvalue
      · rename_i hupper
        simp [hdecimal, hlower, hupper, hvalue, hdigit]
      · omega

theorem readDigits_append (base limit : Nat) (overflow : NumeralError) (value : Nat)
    (first rest : List Char) :
    readDigits base limit overflow value (first ++ rest) =
      (readDigits base limit overflow value first).bind fun read =>
        readDigits base limit overflow read rest := by
  induction first generalizing value with
  | nil => rfl
  | cons c first ih =>
      simp only [List.cons_append, readDigits]
      split
      · rfl
      · split
        · exact ih _
        · rfl

theorem readDigits_zeros (base limit count : Nat) (hbase : 0 < base)
    (overflow : NumeralError) (cs : List Char) :
    readDigits base limit overflow 0 (List.replicate count '0' ++ cs) =
      readDigits base limit overflow 0 cs := by
  induction count with
  | zero => rfl
  | succ count ih =>
      have hzero : digitValue? base '0' = some 0 := by simp [digitValue?, hbase]
      simpa [List.replicate_succ, readDigits, hzero] using ih

/-- The digits of a number within the limit are read as the number. -/
theorem readDigits_toDigits {base limit n : Nat} (hbase : 1 < base) (hsixteen : base ≤ 16)
    (hn : n ≤ limit) (overflow : NumeralError) :
    readDigits base limit overflow 0 (Nat.toDigits base n) = .ok n := by
  induction n using Nat.strongRecOn with
  | ind n ih =>
      rw [Nat.toDigits_eq_if hbase]
      by_cases hlt : n < base
      · rw [if_pos hlt]
        simp [readDigits, digitValue?_digitChar hsixteen hlt, hn]
      · have hsmaller : n / base < n := Nat.div_lt_self (by omega) hbase
        have hlast := digitValue?_digitChar hsixteen (Nat.mod_lt n (by omega : base > 0))
        have hwhole : n / base * base + n % base = n := by
          rw [Nat.mul_comm]
          exact Nat.div_add_mod n base
        rw [if_neg hlt, readDigits_append, ih (n / base) hsmaller (by omega)]
        simp [Except.bind, readDigits, hlast, hwhole, hn]

theorem isNumeral_toDigits {base : Nat} (hbase : 1 < base) (hsixteen : base ≤ 16) (n : Nat) :
    IsNumeral base (Nat.toDigits base n) where
  ne_nil := Nat.toDigits_ne_nil
  digits := by
    induction n using Nat.strongRecOn with
    | ind n ih =>
        rw [Nat.toDigits_eq_if hbase]
        by_cases hlt : n < base
        · rw [if_pos hlt]
          simp [digitValue?_digitChar hsixteen hlt]
        · have hlast := digitValue?_digitChar hsixteen (Nat.mod_lt n (by omega : base > 0))
          rw [if_neg hlt]
          intro c hc
          rcases List.mem_append.1 hc with hc | hc
          · exact ih (n / base) (Nat.div_lt_self (by omega) hbase) c hc
          · rw [List.mem_singleton.1 hc, hlast]
            rfl

theorem isNumeral_padded {base : Nat} (hbase : 1 < base) (hsixteen : base ≤ 16)
    (width n : Nat) : IsNumeral base (padded base width n) where
  ne_nil := by simp [padded]
  digits := by
    intro c hc
    rcases List.mem_append.1 hc with hc | hc
    · rw [List.eq_of_mem_replicate hc]
      have hpos : 0 < base := by omega
      simp [digitValue?, hpos]
    · exact (isNumeral_toDigits hbase hsixteen n).digits c hc

theorem length_padded {base width n : Nat} (hwidth : (Nat.toDigits base n).length ≤ width) :
    (padded base width n).length = width := by
  simp only [padded, List.length_append, List.length_replicate]
  omega

/-- No digit is a sign, so a numeral is read digit by digit from its start. -/
theorem readNatural_of_isNumeral {base : Nat} (limit : Nat) {cs : List Char}
    (hcs : IsNumeral base cs) :
    readNatural base limit cs = readDigits base limit .tooLarge 0 cs := by
  obtain ⟨hne, hdigits⟩ := hcs
  cases cs with
  | nil => exact absurd rfl hne
  | cons c rest =>
      have hplus : c ≠ '+' := by
        intro hc
        have hsome := hdigits c List.mem_cons_self
        subst hc
        simp [digitValue?] at hsome
      unfold readNatural
      split
      · contradiction
      · rename_i heq
        injection heq with heq
        contradiction
      · rfl

theorem readNatural_toDigits {base limit n : Nat} (hbase : 1 < base) (hsixteen : base ≤ 16)
    (hn : n ≤ limit) : readNatural base limit (Nat.toDigits base n) = .ok n := by
  rw [readNatural_of_isNumeral limit (isNumeral_toDigits hbase hsixteen n),
    readDigits_toDigits hbase hsixteen hn]

theorem readNatural_padded {base limit n : Nat} (hbase : 1 < base) (hsixteen : base ≤ 16)
    (width : Nat) (hn : n ≤ limit) : readNatural base limit (padded base width n) = .ok n := by
  rw [readNatural_of_isNumeral limit (isNumeral_padded hbase hsixteen width n), padded,
    readDigits_zeros base limit _ (by omega), readDigits_toDigits hbase hsixteen hn]

/-- Decimal text of a number of 64 bits reads back. -/
@[simp] theorem readUInt64_decimal (n : UInt64) :
    readUInt64 (decimal n.toNat).toList = .ok n.toNat := by
  have hn := n.toNat_lt
  rw [decimal, String.toList_ofList]
  exact readNatural_toDigits (by decide) (by decide) (by omega)

theorem isDigit_of_mem_padded {width n : Nat} {c : Char} (hc : c ∈ padded 10 width n) :
    c.isDigit = true := by
  rcases List.mem_append.1 hc with hc | hc
  · rw [List.eq_of_mem_replicate hc]
    rfl
  · exact Nat.isDigit_of_mem_toDigits (by decide) (by decide) hc

theorem ofDigitChars_padded (width n : Nat) :
    Nat.ofDigitChars 10 (padded 10 width n) 0 = n := by
  rw [padded, Nat.ofDigitChars_append, Nat.ofDigitChars_replicate_zero, Nat.mul_zero,
    Nat.ofDigitChars_toDigits (by decide) (by decide)]

end AuditFields.Text

namespace AuditFields.Timestamp

open Text

theorem fixedDigits?_append {cs : List Char} (hcs : ∀ c ∈ cs, c.isDigit = true)
    (value : Nat) (rest : List Char) :
    fixedDigits? cs.length value (cs ++ rest) = some (Nat.ofDigitChars 10 cs value, rest) := by
  induction cs generalizing value with
  | nil => rfl
  | cons c cs ih =>
      have hc := hcs c List.mem_cons_self
      have hcomm : value * 10 + (c.toNat - 48) = 10 * value + (c.toNat - 48) := by omega
      simp only [List.length_cons, List.cons_append, fixedDigits?, hc, if_true,
        Nat.ofDigitChars_cons]
      rw [ih (fun d hd => hcs d (List.mem_cons_of_mem c hd)), hcomm]
      rfl

/-- A number padded to a width is read with that width, and no further. -/
theorem fixedDigits?_padded {width n : Nat} (hwidth : (Nat.toDigits 10 n).length ≤ width)
    (rest : List Char) : fixedDigits? width 0 (padded 10 width n ++ rest) = some (n, rest) := by
  have hread := fixedDigits?_append
    (fun c (hc : c ∈ padded 10 width n) => isDigit_of_mem_padded hc) 0 rest
  rwa [length_padded hwidth, ofDigitChars_padded] at hread

end AuditFields.Timestamp
