/-
The grammar of colours.  A colour is read from a number sign and six characters of a
hexadecimal number, of which the first may be a plus sign.  So all texts of six
digits are read as the number that the digits denote, and besides them those of a
plus sign and five digits, for which a zero is written in the place of the sign.
-/
import AuditFields.Codec.Accept
import AuditFields.Proofs.HexDigits
import AuditFields.Proofs.WireForms

namespace AuditFields

namespace Color

open Text

/-- The colour of a number is the one that has the number. -/
theorem ofNat?_eq_some_iff {n : Nat} {color : Color} :
    ofNat? n = some color ↔ n = color.toNat := by
  constructor
  · intro hcolor
    unfold ofNat? at hcolor
    split at hcolor
    · rename_i hn
      have hred : n / 256 / 256 < 256 := by
        rw [maxValue] at hn
        omega
      have hlow := Nat.div_add_mod n 256
      have hmiddle := Nat.div_add_mod (n / 256) 256
      rw [← Option.some.inj hcolor, toNat, UInt8.toNat_ofNat', UInt8.toNat_ofNat',
        UInt8.toNat_ofNat', ← Nat.div_div_eq_div_mul n 256 256, Nat.mod_eq_of_lt hred]
      omega
    · contradiction
  · rintro rfl
    exact color.ofNat?_toNat

/-- A number sign and as many characters as a colour has digits. -/
structure IsSpelled (s : String) (digits : List Char) : Prop where
  toList_eq : s.toList = '#' :: digits
  length_eq : digits.length = 6

theorem IsSpelled.eq_of_toList_eq {s : String} {digits other : List Char}
    (hs : IsSpelled s digits) (hother : s.toList = '#' :: other) : digits = other :=
  List.tail_eq_of_cons_eq (hs.toList_eq.symm.trans hother)

theorem IsSpelled.withoutPlus_ne_nil {s : String} {digits : List Char} (hs : IsSpelled s digits) :
    withoutPlus digits ≠ [] := by
  have hlength := hs.length_eq
  unfold withoutPlus
  split
  · rintro rfl
    contradiction
  · rintro rfl
    contradiction

theorem ofText_of_isSpelled {s : String} {digits : List Char} (hs : IsSpelled s digits)
    {color : Color} : ofText s = .ok color ↔
      ∃ n, readNatural 16 0xFFFFFFFF digits = .ok n ∧ ofNat? n = some color := by
  simp only [ofText, hs.toList_eq, if_pos hs.length_eq]
  cases readNatural 16 0xFFFFFFFF digits with
  | error e => simp
  | ok n => cases hcolor : ofNat? n <;> simp [hcolor]

theorem isSpelled_of_ofText {s : String} {color : Color} (hread : ofText s = .ok color) :
    ∃ digits, IsSpelled s digits := by
  unfold ofText at hread
  split at hread
  · rename_i digits hs
    split at hread
    · rename_i hlength
      exact ⟨digits, hs, hlength⟩
    · contradiction
  · contradiction

/-- A text is read as the colour whose number its digits denote, a plus sign in front
of them being dropped. -/
theorem ofText_eq_ok_iff {s : String} {color : Color} :
    ofText s = .ok color ↔
      ∃ digits, IsSpelled s digits ∧ Denotes 16 (withoutPlus digits) color.toNat := by
  constructor
  · intro hread
    obtain ⟨digits, hs⟩ := isSpelled_of_ofText hread
    obtain ⟨n, hn, hcolor⟩ := (ofText_of_isSpelled hs).1 hread
    rw [readNatural_eq_ok_iff (by decide), ofNat?_eq_some_iff.1 hcolor] at hn
    exact ⟨digits, hs, hn.1⟩
  · rintro ⟨digits, hs, hn⟩
    have hlimit : color.toNat ≤ 0xFFFFFFFF := by
      have hle := color.toNat_le
      rw [maxValue] at hle
      omega
    exact (ofText_of_isSpelled hs).2
      ⟨color.toNat, (readNatural_eq_ok_iff (by decide)).2 ⟨hn, hlimit⟩, color.ofNat?_toNat⟩

/-- The text of a colour is that of its number. -/
theorem text_eq (color : Color) :
    color.text = String.ofList ('#' :: (padded 16 6 color.toNat).map Char.toUpper) := by
  have hnumber : color.toNat =
      (color.red.toNat * 256 + color.green.toNat) * 256 + color.blue.toNat := by
    rw [toNat]
    omega
  have hparts : padded 16 6 color.toNat = padded 16 2 color.red.toNat ++
      padded 16 2 color.green.toNat ++ padded 16 2 color.blue.toNat := by
    rw [hnumber, padded_append_byte (by decide) _ color.blue.toNat_lt,
      padded_append_byte (by decide) _ color.green.toNat_lt]
  simp [text, hparts]

/-- The character that is written for one that was read. -/
def written (c : Char) : Char :=
  if c = '+' then '0' else c.toUpper

theorem written_of_isHexDigit {c : Char} (hc : isHexDigit c = true) : written c = c.toUpper := by
  have hplus : c ≠ '+' := by
    rintro rfl
    contradiction
  rw [written, if_neg hplus]

theorem map_toUpper_toLower {digits : List Char} (hdigits : ∀ c ∈ digits, isHexDigit c = true) :
    (digits.map Char.toLower).map Char.toUpper = digits.map written := by
  rw [List.map_map]
  apply List.map_congr_left
  intro c hc
  rw [Function.comp_apply, toUpper_toLower_of_isHexDigit (hdigits c hc),
    written_of_isHexDigit (hdigits c hc)]

/-- The six digits of a number are written for the characters that denote it, and among
them a zero for a plus sign. -/
theorem map_padded_of_denotes {digits : List Char} {n : Nat} (hlength : digits.length = 6)
    (hn : Denotes 16 (withoutPlus digits) n) :
    (padded 16 6 n).map Char.toUpper = digits.map written := by
  unfold withoutPlus at hn
  split at hn
  · rename_i rest
    have hhex := exists_denoted?_iff.1 ⟨n, hn.2⟩
    have hzero := padded_succ_of_denotes hn
    rw [← List.length_cons, hlength] at hzero
    rw [hzero, List.map_cons, List.map_cons, map_toUpper_toLower hhex]
    rfl
  · have hhex := exists_denoted?_iff.1 ⟨n, hn.2⟩
    have hsame := padded_of_denotes hn
    rw [hlength] at hsame
    rw [hsame, map_toUpper_toLower hhex]

theorem text_of_denotes {color : Color} {digits : List Char} (hlength : digits.length = 6)
    (hn : Denotes 16 (withoutPlus digits) color.toNat) :
    color.text = String.ofList ('#' :: digits.map written) := by
  rw [text_eq, map_padded_of_denotes hlength hn]

/-- Six characters denote no number that is too large for a colour. -/
theorem le_maxValue_of_denotes {digits : List Char} {n : Nat} (hlength : digits.length = 6)
    (hn : Denotes 16 (withoutPlus digits) n) : n ≤ maxValue := by
  have hsix : (padded 16 6 n).length = 6 := by
    have hwritten := congrArg List.length (map_padded_of_denotes hlength hn)
    rwa [List.length_map, List.length_map, hlength] at hwritten
  have hdigits : (Nat.toDigits 16 n).length ≤ 6 := by
    rw [← hsix, padded, List.length_append]
    exact Nat.le_add_left _ _
  have hlt := (Nat.length_toDigits_le_iff (by decide) (by decide)).1 hdigits
  rw [maxValue]
  omega

/-- A text of six characters is read if they are digits, perhaps with a plus sign in the
place of the first. -/
theorem exists_ofText_eq_ok {s : String} {digits : List Char} (hs : IsSpelled s digits)
    (hdigits : ∀ c ∈ withoutPlus digits, isHexDigit c = true) :
    ∃ color, ofText s = .ok color := by
  obtain ⟨n, hn⟩ := exists_denoted?_iff.2 hdigits
  have hdenotes : Denotes 16 (withoutPlus digits) n := ⟨hs.withoutPlus_ne_nil, hn⟩
  obtain ⟨color, hcolor⟩ : ∃ color, ofNat? n = some color :=
    ⟨_, if_pos (le_maxValue_of_denotes hs.length_eq hdenotes)⟩
  rw [ofNat?_eq_some_iff.1 hcolor] at hdenotes
  exact ⟨color, ofText_eq_ok_iff.2 ⟨digits, hs, hdenotes⟩⟩

/-- A text is accepted for a colour just if it is read. -/
theorem accept_string_eq_ok_iff {s : String} {color : Color} :
    Codec.color.accept (.string s) = .ok color ↔ ofText s = .ok color := by
  simp only [Codec.accept, ScalarCodec.accept, acceptColor]
  cases ofText s <;> simp

/-- A number sign and six hexadecimal digits. -/
def IsPlain (s : String) : Prop :=
  ∃ digits, IsSpelled s digits ∧ ∀ c ∈ digits, isHexDigit c = true

/-- A text with its hexadecimal digits in their capital forms. -/
def capitalDigits (s : String) : String :=
  String.ofList (s.toList.map fun c => if isHexDigit c then c.toUpper else c)

/-- The grammar of colours: a number sign and six hexadecimal digits; and what is made of
a text that is read. -/
structure FollowsGrammar (s : String) : Prop where
  ok_iff : (∃ color, ofText s = .ok color) ↔ IsPlain s
  accept_iff : (∃ color, Codec.color.accept (.string s) = .ok color) ↔ IsPlain s
  denotes : ∀ color digits, ofText s = .ok color → s.toList = '#' :: digits →
    Denotes 16 digits color.toNat
  text_eq : ∀ color, ofText s = .ok color → color.text = capitalDigits s

theorem capitalDigits_eq {s : String} {digits : List Char} (hs : IsSpelled s digits)
    (hdigits : ∀ c ∈ digits, isHexDigit c = true) :
    capitalDigits s = String.ofList ('#' :: digits.map written) := by
  have hcapital : digits.map (fun c => if isHexDigit c then c.toUpper else c) =
      digits.map written := by
    apply List.map_congr_left
    intro c hc
    rw [if_pos (hdigits c hc), written_of_isHexDigit (hdigits c hc)]
  rw [capitalDigits, hs.toList_eq, List.map_cons, hcapital]
  rfl

theorem withoutPlus_of_isHexDigit {digits : List Char}
    (hdigits : ∀ c ∈ digits, isHexDigit c = true) : withoutPlus digits = digits := by
  apply withoutPlus_of_ne
  rintro rest rfl
  exact absurd (hdigits '+' List.mem_cons_self) (by decide)

/-- A number sign, a plus sign and five hexadecimal digits. -/
def HasPlus (s : String) : Prop :=
  ∃ digits, IsSpelled s ('+' :: digits) ∧ ∀ c ∈ digits, isHexDigit c = true

/-- The grammar has no plus sign, but texts with one are read. -/
theorem not_followsGrammar_of_hasPlus {s : String} (hs : HasPlus s) : ¬ FollowsGrammar s := by
  intro hgrammar
  obtain ⟨digits, hs, hdigits⟩ := hs
  obtain ⟨plain, hplain, hhex⟩ := hgrammar.ok_iff.1 (exists_ofText_eq_ok hs hdigits)
  have hplus : '+' ∈ plain := hs.eq_of_toList_eq hplain.toList_eq ▸ List.mem_cons_self
  exact absurd (hhex '+' hplus) (by decide)

/-- Of a text without a plus sign that is read, all characters are digits. -/
theorem exists_digits_of_not_hasPlus {s : String} {color : Color} (hs : ¬ HasPlus s)
    (hread : ofText s = .ok color) :
    ∃ digits, IsSpelled s digits ∧ (∀ c ∈ digits, isHexDigit c = true) ∧
      Denotes 16 digits color.toNat := by
  obtain ⟨digits, hspelled, hn⟩ := ofText_eq_ok_iff.1 hread
  have hdigits := exists_denoted?_iff.1 ⟨_, hn.2⟩
  have hsame : withoutPlus digits = digits := by
    apply withoutPlus_of_ne
    rintro rest rfl
    exact hs ⟨rest, hspelled, hdigits⟩
  rw [hsame] at hn hdigits
  exact ⟨digits, hspelled, hdigits, hn⟩

theorem followsGrammar_of_not_hasPlus {s : String} (hs : ¬ HasPlus s) : FollowsGrammar s := by
  have hok : (∃ color, ofText s = .ok color) ↔ IsPlain s := by
    constructor
    · rintro ⟨color, hread⟩
      obtain ⟨digits, hspelled, hdigits, -⟩ := exists_digits_of_not_hasPlus hs hread
      exact ⟨digits, hspelled, hdigits⟩
    · rintro ⟨digits, hspelled, hdigits⟩
      exact exists_ofText_eq_ok hspelled (by rwa [withoutPlus_of_isHexDigit hdigits])
  refine ⟨hok, (exists_congr fun _ => accept_string_eq_ok_iff).trans hok, ?_, ?_⟩
  · intro color digits hread hdigits
    obtain ⟨plain, hspelled, -, hn⟩ := exists_digits_of_not_hasPlus hs hread
    rwa [← hspelled.eq_of_toList_eq hdigits]
  · intro color hread
    obtain ⟨digits, hspelled, hdigits, hn⟩ := exists_digits_of_not_hasPlus hs hread
    rw [← withoutPlus_of_isHexDigit hdigits] at hn
    rw [text_of_denotes hspelled.length_eq hn, capitalDigits_eq hspelled hdigits]

/-- A text is read, and accepted, as the grammar has it exactly when it is not a number
sign, a plus sign and five digits.  In general the characters after the number sign
denote the number of the colour, a plus sign in front being dropped, and their capital
forms are written, with a zero for the plus sign. -/
theorem followsGrammar_iff_not_hasPlus (s : String) :
    (FollowsGrammar s ↔ ¬ HasPlus s) ∧
    ∀ color,
      (ofText s = .ok color ↔ ∃ digits, IsSpelled s digits ∧
        Denotes 16 (withoutPlus digits) color.toNat ∧
        color.text = String.ofList ('#' :: digits.map written)) ∧
      (Codec.color.accept (.string s) = .ok color ↔ ofText s = .ok color) := by
  refine ⟨⟨fun hgrammar hs => not_followsGrammar_of_hasPlus hs hgrammar,
    followsGrammar_of_not_hasPlus⟩, fun color => ⟨?_, accept_string_eq_ok_iff⟩⟩
  rw [ofText_eq_ok_iff]
  constructor
  · rintro ⟨digits, hs, hn⟩
    exact ⟨digits, hs, hn, text_of_denotes hs.length_eq hn⟩
  · rintro ⟨digits, hs, hn, -⟩
    exact ⟨digits, hs, hn⟩

/-- Five digits are read, and accepted, as a colour if a plus sign stands before them, and
a zero is written for it. -/
theorem not_followsGrammar_plus_abcde :
    ofText "#+abcde" = .ok ⟨0x0a, 0xbc, 0xde⟩ ∧
      Codec.color.accept (.string "#+abcde") = .ok (⟨0x0a, 0xbc, 0xde⟩ : Color) ∧
      text ⟨0x0a, 0xbc, 0xde⟩ = "#0ABCDE" ∧ ¬ FollowsGrammar "#+abcde" := by
  have hplus : HasPlus "#+abcde" :=
    ⟨['a', 'b', 'c', 'd', 'e'], ⟨rfl, rfl⟩, List.all_eq_true.1 rfl⟩
  exact ⟨rfl, rfl, by decide, not_followsGrammar_of_hasPlus hplus⟩

end Color

end AuditFields
