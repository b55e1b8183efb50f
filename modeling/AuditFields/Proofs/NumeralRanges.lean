/-
Numerals and ranges.  Digits denote one number, and a reader with a limit reads
that number wherever the limit allows it.  So a text that is read both as a
natural number and as an integer is read as the same number.
-/
import AuditFields.Text.Digits

namespace AuditFields.Text

/-- The number that digits denote after a value read so far, however large. -/
def denoted? (base : Nat) : Nat → List Char → Option Nat
  | value, [] => some value
  | value, c :: rest =>
      match digitValue? base c with
      | none => none
      | some digit => denoted? base (value * base + digit) rest

/-- More digits make no smaller number. -/
theorem le_of_denoted? {base : Nat} (hbase : 0 < base) {value n : Nat} {cs : List Char}
    (hn : denoted? base value cs = some n) : value ≤ n := by
  induction cs generalizing value with
  | nil => exact Nat.le_of_eq (Option.some.inj hn)
  | cons c rest ih =>
      rw [denoted?] at hn
      split at hn
      · contradiction
      · rename_i digit _
        have hstep : value ≤ value * base := Nat.le_mul_of_pos_right value hbase
        have hrest := ih hn
        omega

/-- A reader with a limit reads the number that the digits denote, and fails only
where that number is beyond the limit: what it has read so far is never larger. -/
theorem readDigits_eq_ok_iff {base limit : Nat} (hbase : 0 < base) (overflow : NumeralError)
    {value n : Nat} {cs : List Char} (hvalue : value ≤ limit) :
    readDigits base limit overflow value cs = .ok n ↔
      denoted? base value cs = some n ∧ n ≤ limit := by
  induction cs generalizing value with
  | nil =>
      simp only [readDigits, denoted?, Except.ok.injEq, Option.some.injEq]
      constructor
      · rintro rfl
        exact ⟨rfl, hvalue⟩
      · exact fun hn => hn.1
  | cons c rest ih =>
      rw [readDigits, denoted?]
      cases digitValue? base c with
      | none => exact ⟨nofun, nofun⟩
      | some digit =>
          simp only
          by_cases hnext : value * base + digit ≤ limit
          · rw [if_pos hnext]
            exact ih hnext
          · rw [if_neg hnext]
            constructor
            · intro hread
              contradiction
            · rintro ⟨hn, hle⟩
              have hgrows := le_of_denoted? hbase hn
              omega

/-- A text of digits, and the number it denotes. -/
def Denotes (base : Nat) (digits : List Char) (n : Nat) : Prop :=
  digits ≠ [] ∧ denoted? base 0 digits = some n

theorem readDigits1_eq_ok_iff {base limit : Nat} (hbase : 0 < base) (overflow : NumeralError)
    {n : Nat} {digits : List Char} :
    readDigits1 base limit overflow digits = .ok n ↔ Denotes base digits n ∧ n ≤ limit := by
  cases digits with
  | nil => exact ⟨nofun, fun hn => absurd rfl hn.1.1⟩
  | cons c rest =>
      rw [readDigits1, readDigits_eq_ok_iff hbase overflow (Nat.zero_le limit)]
      · simp [Denotes]
      · nofun

/-- A minus sign is no digit. -/
theorem not_denotes_minus (digits : List Char) (n : Nat) : ¬ Denotes 10 ('-' :: digits) n :=
  fun hn => nomatch hn.2

/-- A text without the plus sign that may stand in front. -/
def withoutPlus : List Char → List Char
  | '+' :: digits => digits
  | digits => digits

theorem withoutPlus_of_ne {cs : List Char} (hplus : ∀ digits, cs ≠ '+' :: digits) :
    withoutPlus cs = cs := by
  unfold withoutPlus
  split
  · exact absurd rfl (hplus _)
  · rfl

theorem readNatural_eq_ok_iff {base limit n : Nat} (hbase : 0 < base) {cs : List Char} :
    readNatural base limit cs = .ok n ↔ Denotes base (withoutPlus cs) n ∧ n ≤ limit := by
  unfold readNatural
  split
  · exact ⟨nofun, fun hn => absurd rfl hn.1.1⟩
  · exact readDigits1_eq_ok_iff hbase .tooLarge
  · rename_i hplus
    rw [withoutPlus_of_ne hplus]
    exact readDigits1_eq_ok_iff hbase .tooLarge

theorem map_readDigits1_eq_ok_iff {limit : Nat} {overflow : NumeralError} {digits : List Char}
    {sign : Nat → Int} {z : Int} :
    (readDigits1 10 limit overflow digits).map sign = .ok z ↔
      ∃ n, Denotes 10 digits n ∧ n ≤ limit ∧ sign n = z := by
  constructor
  · intro hread
    cases hdigits : readDigits1 10 limit overflow digits with
    | error e =>
        rw [hdigits] at hread
        contradiction
    | ok n =>
        rw [hdigits] at hread
        obtain ⟨hn, hle⟩ := (readDigits1_eq_ok_iff (by decide) overflow).1 hdigits
        exact ⟨n, hn, hle, Except.ok.inj hread⟩
  · rintro ⟨n, hn, hle, rfl⟩
    rw [(readDigits1_eq_ok_iff (by decide) overflow).2 ⟨hn, hle⟩]
    rfl

theorem readInteger_eq_ok_iff {negative positive : Nat} {z : Int} {cs : List Char} :
    readInteger negative positive cs = .ok z ↔
      (∃ n, Denotes 10 (withoutPlus cs) n ∧ n ≤ positive ∧ (n : Int) = z) ∨
        ∃ digits n, cs = '-' :: digits ∧ Denotes 10 digits n ∧ n ≤ negative ∧ -(n : Int) = z := by
  unfold readInteger
  split
  · constructor
    · nofun
    · rintro (⟨n, hn, -⟩ | ⟨digits, n, heq, -⟩)
      · exact absurd rfl hn.1
      · contradiction
  · rename_i digits
    rw [map_readDigits1_eq_ok_iff]
    constructor
    · exact Or.inl
    · rintro (hn | ⟨other, n, heq, -⟩)
      · exact hn
      · injection heq with hsign
        contradiction
  · rename_i digits
    -- the digits are taken for an integer before the sign is put on
    have hsign : ∀ read : Except NumeralError Nat,
        ((do let n ← read; pure (n : Int)) : Except NumeralError Int).map (fun n => -n) =
          read.map fun n : Nat => -(n : Int) := by
      intro read
      cases read <;> rfl
    rw [hsign, map_readDigits1_eq_ok_iff]
    constructor
    · rintro ⟨n, hn⟩
      exact Or.inr ⟨digits, n, rfl, hn⟩
    · rintro (⟨n, hn, -⟩ | ⟨other, n, heq, hn⟩)
      · exact absurd hn (not_denotes_minus digits n)
      · injection heq with _ hdigits
        exact ⟨n, hdigits ▸ hn⟩
  · rename_i hplus hminus
    rw [map_readDigits1_eq_ok_iff, withoutPlus_of_ne hplus]
    constructor
    · exact Or.inl
    · rintro (hn | ⟨digits, n, heq, -⟩)
      · exact hn
      · exact absurd heq (hminus digits)

/-- A text that is read as a natural number is read as an integer too, and as the
same number. -/
theorem readInteger_of_readNatural {limit negative positive n : Nat} (hlimit : limit ≤ positive)
    {cs : List Char} (hread : readNatural 10 limit cs = .ok n) :
    readInteger negative positive cs = .ok n := by
  obtain ⟨hn, hle⟩ := (readNatural_eq_ok_iff (by decide)).1 hread
  exact readInteger_eq_ok_iff.2 (Or.inl ⟨n, hn, Nat.le_trans hle hlimit, rfl⟩)

/-- Read as a number above zero, a text has no minus sign, and is read as a natural
number as long as the limit allows it. -/
theorem readNatural_of_readInteger {limit negative positive n : Nat} (hpos : 0 < n)
    (hle : n ≤ limit) {cs : List Char} (hread : readInteger negative positive cs = .ok n) :
    readNatural 10 limit cs = .ok n := by
  rcases readInteger_eq_ok_iff.1 hread with ⟨m, hm, -, heq⟩ | ⟨digits, m, -, -, -, heq⟩
  · rw [Int.ofNat_inj] at heq
    subst heq
    exact (readNatural_eq_ok_iff (by decide)).2 ⟨hm, hle⟩
  · omega

end AuditFields.Text
