/-
Hexadecimal digits.  Each has one value, in whichever case it is written, and the
digits that a number is written with are the small forms of those it was read from.
-/
import AuditFields.Proofs.NumeralRanges

namespace AuditFields.Text

/-- A hexadecimal digit of either case. -/
def isHexDigit (c : Char) : Bool :=
  c.isDigit || ('a' ≤ c && c ≤ 'f') || ('A' ≤ c && c ≤ 'F')

/-- What there is to know of the value of a character: hexadecimal digits have one
below sixteen, whose digit is the small form of the character. -/
def HasHexValue (c : Char) : Option Nat → Prop
  | none => isHexDigit c = false
  | some digit => isHexDigit c = true ∧ digit < 16 ∧ digit.digitChar = c.toLower

instance (c : Char) (value : Option Nat) : Decidable (HasHexValue c value) := by
  cases value <;> unfold HasHexValue <;> infer_instance

/-- What holds of each of the characters below 128 may be looked up. -/
theorem of_ascii {P : Char → Prop} (htable : ∀ n : Fin 128, P (Char.ofNat n)) {c : Char}
    (hc : c.toNat < 128) : P c := by
  have hlooked := htable ⟨c.toNat, hc⟩
  rwa [Char.ofNat_toNat] at hlooked

theorem hasHexValue_digitValue? (c : Char) : HasHexValue c (digitValue? 16 c) := by
  by_cases hascii : c.toNat < 128
  · exact of_ascii (P := fun c => HasHexValue c (digitValue? 16 c)) (by decide +kernel) hascii
  · have hbeyond : ∀ limit : Char, limit.toNat < 128 → ¬ c ≤ limit := by
      intro limit hlimit hle
      have hnat : c.toNat ≤ limit.toNat := UInt32.le_iff_toNat_le.1 hle
      omega
    have hnine := hbeyond '9' (by decide)
    have hsmall := hbeyond 'f' (by decide)
    have hcapital := hbeyond 'F' (by decide)
    have hdecimal : c.isDigit = false := by
      simp only [Char.isDigit, Bool.and_eq_false_iff, decide_eq_false_iff_not]
      exact Or.inr hnine
    simp [HasHexValue, digitValue?, isHexDigit, hnine, hsmall, hcapital, hdecimal]

theorem isHexDigit_of_digitValue? {c : Char} {digit : Nat} (hc : digitValue? 16 c = some digit) :
    isHexDigit c = true ∧ digit < 16 ∧ digit.digitChar = c.toLower := by
  have hvalue := hasHexValue_digitValue? c
  rwa [hc] at hvalue

theorem exists_digitValue? {c : Char} (hc : isHexDigit c = true) :
    ∃ digit, digitValue? 16 c = some digit := by
  have hvalue := hasHexValue_digitValue? c
  cases hdigit : digitValue? 16 c with
  | none =>
      rw [hdigit, HasHexValue, hc] at hvalue
      contradiction
  | some digit => exact ⟨digit, rfl⟩

theorem toNat_lt_of_isHexDigit {c : Char} (hc : isHexDigit c = true) : c.toNat < 128 := by
  have hbelow : ∀ limit : Char, limit.toNat < 128 → c ≤ limit → c.toNat < 128 :=
    fun _ hlimit hle => Nat.lt_of_le_of_lt (UInt32.le_iff_toNat_le.1 hle) hlimit
  simp only [isHexDigit, Char.isDigit, Bool.or_eq_true, Bool.and_eq_true, decide_eq_true_eq] at hc
  rcases hc with (⟨-, hc⟩ | ⟨-, hc⟩) | ⟨-, hc⟩
  · exact hbelow '9' (by decide) hc
  · exact hbelow 'f' (by decide) hc
  · exact hbelow 'F' (by decide) hc

/-- A digit has one capital form, whichever case it is in. -/
theorem toUpper_toLower_of_isHexDigit {c : Char} (hc : isHexDigit c = true) :
    c.toLower.toUpper = c.toUpper :=
  of_ascii (P := fun c => c.toLower.toUpper = c.toUpper) (by decide +kernel)
    (toNat_lt_of_isHexDigit hc)

/-- Hexadecimal digits denote a number, and nothing else does. -/
theorem exists_denoted?_iff {value : Nat} {digits : List Char} :
    (∃ n, denoted? 16 value digits = some n) ↔ ∀ c ∈ digits, isHexDigit c = true := by
  induction digits generalizing value with
  | nil => exact iff_of_true ⟨value, rfl⟩ (List.forall_mem_nil _)
  | cons c rest ih =>
      rw [List.forall_mem_cons, denoted?]
      cases hdigit : digitValue? 16 c with
      | none =>
          have hvalue := hasHexValue_digitValue? c
          rw [hdigit, HasHexValue] at hvalue
          simp [hvalue]
      | some digit =>
          have hc := (isHexDigit_of_digitValue? hdigit).1
          exact ih.trans (and_iff_right hc).symm

theorem padded_two {high low : Nat} (hhigh : high < 16) (hlow : low < 16) :
    padded 16 2 (high * 16 + low) = [high.digitChar, low.digitChar] := by
  have hdiv : (high * 16 + low) / 16 = high := by omega
  have hmod : (high * 16 + low) % 16 = low := by omega
  by_cases hzero : high = 0
  · subst hzero
    simp [padded, Nat.toDigits_of_lt_base hlow]
  · have hlarge : ¬ high * 16 + low < 16 := by omega
    rw [padded, Nat.toDigits_eq_if (by decide), if_neg hlarge, hdiv, hmod,
      Nat.toDigits_of_lt_base hhigh]
    rfl

/-- The last digit of a number stands after those of the rest. -/
theorem padded_concat {base width : Nat} (hbase : 1 < base) (hwidth : 0 < width) (n : Nat) :
    padded base (width + 1) n = padded base width (n / base) ++ [(n % base).digitChar] := by
  rw [padded, padded, Nat.toDigits_eq_if hbase]
  by_cases hn : n < base
  · obtain ⟨rest, rfl⟩ : ∃ rest, width = rest + 1 := ⟨width - 1, by omega⟩
    simp [hn, Nat.div_eq_of_lt hn, Nat.mod_eq_of_lt hn,
      Nat.toDigits_of_lt_base (Nat.zero_lt_of_lt hn), List.replicate_succ']
  · simp [hn]

/-- The last two digits of a number are those of its last byte. -/
theorem padded_append_byte {width byte : Nat} (hwidth : 0 < width) (value : Nat)
    (hbyte : byte < 256) :
    padded 16 (width + 2) (value * 256 + byte) = padded 16 width value ++ padded 16 2 byte := by
  have hpair : padded 16 2 byte = [(byte / 16).digitChar, (byte % 16).digitChar] := by
    have hwhole : byte / 16 * 16 + byte % 16 = byte := by omega
    have htwo : padded 16 2 (byte / 16 * 16 + byte % 16) =
        [(byte / 16).digitChar, (byte % 16).digitChar] :=
      padded_two (by omega) (by omega)
    rwa [hwhole] at htwo
  have hrest : (value * 256 + byte) / 16 / 16 = value := by omega
  have hhigh : (value * 256 + byte) / 16 % 16 = byte / 16 := by omega
  have hlow : (value * 256 + byte) % 16 = byte % 16 := by omega
  rw [padded_concat (by decide) (Nat.succ_pos width), padded_concat (by decide) hwidth, hrest,
    hhigh, hlow, hpair, List.append_assoc]
  rfl

/-- Digits read onto a number are written after it again, in their small forms. -/
theorem padded_of_denoted? {width value n : Nat} (hwidth : 0 < width) {digits : List Char}
    (hn : denoted? 16 value digits = some n) :
    padded 16 (width + digits.length) n = padded 16 width value ++ digits.map Char.toLower := by
  induction digits generalizing width value with
  | nil => simp [← Option.some.inj hn]
  | cons c rest ih =>
      rw [denoted?] at hn
      split at hn
      · contradiction
      · rename_i digit hdigit
        obtain ⟨-, hlt, hchar⟩ := isHexDigit_of_digitValue? hdigit
        have hdiv : (value * 16 + digit) / 16 = value := by omega
        have hmod : (value * 16 + digit) % 16 = digit := by omega
        have hstep := ih (Nat.succ_pos width) hn
        rw [padded_concat (by decide) hwidth, hdiv, hmod, hchar] at hstep
        simpa [Nat.add_comm, Nat.add_left_comm] using hstep

/-- The digits that denote a number are those it is written with in their place. -/
theorem padded_of_denotes {digits : List Char} {n : Nat} (hn : Denotes 16 digits n) :
    padded 16 digits.length n = digits.map Char.toLower := by
  obtain ⟨hne, hn⟩ := hn
  cases digits with
  | nil => exact absurd rfl hne
  | cons c rest =>
      rw [denoted?] at hn
      split at hn
      · contradiction
      · rename_i digit hdigit
        obtain ⟨-, hlt, hchar⟩ := isHexDigit_of_digitValue? hdigit
        have hfirst : padded 16 1 (0 * 16 + digit) = [c.toLower] := by
          simp [padded, Nat.toDigits_of_lt_base hlt, hchar]
        have hwritten := padded_of_denoted? Nat.one_pos hn
        rwa [hfirst, Nat.add_comm] at hwritten

/-- With one place more, a zero is written in front. -/
theorem padded_succ_of_denotes {digits : List Char} {n : Nat} (hn : Denotes 16 digits n) :
    padded 16 (digits.length + 1) n = '0' :: digits.map Char.toLower := by
  have hwritten := padded_of_denoted? Nat.one_pos hn.2
  rwa [Nat.add_comm] at hwritten

end AuditFields.Text
