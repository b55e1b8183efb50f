/-
The grammar of image hashes.  A hash is read in pairs of characters, of which the
first may be a plus sign.  So all texts of thirty-two hexadecimal digits are read,
and besides them those that have plus signs at the start of pairs; where such a
sign stood, a zero is written.
-/
import AuditFields.Proofs.HexDigits
import AuditFields.Proofs.WireForms

namespace AuditFields

namespace ImageHash

open Text

/-- The mark in front of the digits, which only moving images have. -/
def mark (animated : Bool) : List Char :=
  if animated then ['a', '_'] else []

/-- Characters in pairs that are each read as a byte. -/
inductive IsPaired : List Char → Prop
  | nil : IsPaired []
  | pair {high low : Char} {rest : List Char} (hhigh : high = '+' ∨ isHexDigit high = true)
      (hlow : isHexDigit low = true) (hrest : IsPaired rest) : IsPaired (high :: low :: rest)

/-- The character that is written for one that was read. -/
def written (c : Char) : Char :=
  if c = '+' then '0' else c.toLower

/-- Value of the first character of a pair. -/
def leadingValue? (c : Char) : Option Nat :=
  if c = '+' then some 0 else digitValue? 16 c

theorem leadingValue?_eq_some {c : Char} {digit : Nat} (hc : leadingValue? c = some digit) :
    (c = '+' ∨ isHexDigit c = true) ∧ digit < 16 ∧ digit.digitChar = written c := by
  unfold leadingValue? at hc
  split at hc
  · rename_i hplus
    rw [← Option.some.inj hc, written, if_pos hplus]
    exact ⟨Or.inl hplus, by decide, rfl⟩
  · rename_i hplus
    obtain ⟨hdigit, hlt, hchar⟩ := isHexDigit_of_digitValue? hc
    rw [written, if_neg hplus]
    exact ⟨Or.inr hdigit, hlt, hchar⟩

/-- The digits that a pair denotes, its plus sign being dropped. -/
theorem denotes_withoutPlus_iff {high low : Char} {n : Nat} :
    Denotes 16 (withoutPlus [high, low]) n ↔ ∃ first second,
      leadingValue? high = some first ∧ digitValue? 16 low = some second ∧
        n = first * 16 + second := by
  by_cases hplus : high = '+'
  · subst hplus
    cases hlow : digitValue? 16 low with
    | none => simp [Denotes, withoutPlus, denoted?, hlow]
    | some second => simpa [Denotes, withoutPlus, denoted?, leadingValue?, hlow] using eq_comm
  · rw [withoutPlus_of_ne (by simp [hplus])]
    cases hhigh : digitValue? 16 high with
    | none => simp [Denotes, denoted?, leadingValue?, hplus, hhigh]
    | some first =>
        cases hlow : digitValue? 16 low with
        | none => simp [Denotes, denoted?, hhigh, hlow]
        | some second => simpa [Denotes, denoted?, leadingValue?, hplus, hhigh, hlow] using eq_comm

/-- A pair is read as the byte whose two digits are written for its characters. -/
theorem byteOfPair?_eq_some {high low : Char} {byte : UInt8}
    (hbyte : byteOfPair? high low = some byte) :
    ((high = '+' ∨ isHexDigit high = true) ∧ isHexDigit low = true) ∧
      padded 16 2 byte.toNat = [written high, low.toLower] := by
  unfold byteOfPair? at hbyte
  split at hbyte
  · rename_i n hread
    obtain ⟨hdenotes, hlimit⟩ := (readNatural_eq_ok_iff (by decide)).1 hread
    obtain ⟨first, second, hfirst, hsecond, rfl⟩ := denotes_withoutPlus_iff.1 hdenotes
    obtain ⟨hhigh, hfirstLt, hfirstChar⟩ := leadingValue?_eq_some hfirst
    obtain ⟨hlow, hsecondLt, hsecondChar⟩ := isHexDigit_of_digitValue? hsecond
    refine ⟨⟨hhigh, hlow⟩, ?_⟩
    rw [← Option.some.inj hbyte, UInt8.toNat_ofNat_of_lt' (by simp only [UInt8.size]; omega),
      padded_two hfirstLt hsecondLt, hfirstChar, hsecondChar]
  · contradiction

theorem exists_byteOfPair? {high low : Char} (hhigh : high = '+' ∨ isHexDigit high = true)
    (hlow : isHexDigit low = true) : ∃ byte, byteOfPair? high low = some byte := by
  obtain ⟨first, hfirst⟩ : ∃ first, leadingValue? high = some first := by
    unfold leadingValue?
    split
    · exact ⟨0, rfl⟩
    · rename_i hplus
      exact exists_digitValue? (hhigh.resolve_left hplus)
  obtain ⟨second, hsecond⟩ := exists_digitValue? hlow
  have hfirstLt := (leadingValue?_eq_some hfirst).2.1
  have hsecondLt := (isHexDigit_of_digitValue? hsecond).2.1
  have hread : readNatural 16 255 [high, low] = .ok (first * 16 + second) :=
    (readNatural_eq_ok_iff (by decide)).2
      ⟨denotes_withoutPlus_iff.2 ⟨first, second, hfirst, hsecond, rfl⟩, by omega⟩
  exact ⟨_, by rw [byteOfPair?, hread]⟩

/-- A text of pairs is read as the bytes that are written for its characters. -/
theorem bytesOfPairs?_eq_some {digits : List Char} {bytes : List UInt8}
    (hbytes : bytesOfPairs? digits = some bytes) :
    IsPaired digits ∧ digits.length = 2 * bytes.length ∧
      (bytes.flatMap fun byte => padded 16 2 byte.toNat) = digits.map written := by
  induction digits using bytesOfPairs?.induct generalizing bytes with
  | case1 =>
      rw [← Option.some.inj hbytes]
      exact ⟨.nil, rfl, rfl⟩
  | case2 => contradiction
  | case3 high low rest hpair =>
      rw [bytesOfPairs?, hpair] at hbytes
      contradiction
  | case4 high low rest byte hpair ih =>
      rw [bytesOfPairs?, hpair] at hbytes
      obtain ⟨others, hothers, rfl⟩ := Option.map_eq_some_iff.1 hbytes
      obtain ⟨hpaired, hlength, htext⟩ := ih hothers
      obtain ⟨⟨hhigh, hlow⟩, hbyte⟩ := byteOfPair?_eq_some hpair
      have hplus : low ≠ '+' := by
        rintro rfl
        contradiction
      refine ⟨.pair hhigh hlow hpaired, ?_, ?_⟩
      · simp only [List.length_cons, hlength]
        omega
      · simp [hbyte, htext, written, hplus]

theorem exists_bytesOfPairs? {digits : List Char} (hdigits : IsPaired digits) :
    ∃ bytes, bytesOfPairs? digits = some bytes := by
  induction hdigits with
  | nil => exact ⟨[], rfl⟩
  | pair hhigh hlow _ ih =>
      obtain ⟨byte, hbyte⟩ := exists_byteOfPair? hhigh hlow
      obtain ⟨bytes, hbytes⟩ := ih
      exact ⟨byte :: bytes, by rw [bytesOfPairs?, hbyte, hbytes]; rfl⟩

theorem IsPaired.plus_or_isHexDigit {digits : List Char} (hdigits : IsPaired digits) :
    ∀ c ∈ digits, c = '+' ∨ isHexDigit c = true := by
  induction hdigits with
  | nil => exact List.forall_mem_nil _
  | pair hhigh hlow _ ih =>
      rw [List.forall_mem_cons, List.forall_mem_cons]
      exact ⟨hhigh, Or.inr hlow, ih⟩

theorem isPaired_of_isHexDigit (count : Nat) {digits : List Char}
    (hlength : digits.length = 2 * count) (hdigits : ∀ c ∈ digits, isHexDigit c = true) :
    IsPaired digits := by
  induction count generalizing digits with
  | zero =>
      rw [List.length_eq_zero_iff.1 hlength]
      exact .nil
  | succ count ih =>
      match digits, hlength with
      | high :: low :: rest, hlength =>
          rw [List.forall_mem_cons, List.forall_mem_cons] at hdigits
          have hrest : rest.length = 2 * count := by
            simp only [List.length_cons] at hlength
            omega
          exact .pair (Or.inr hdigits.1) hdigits.2.1 (ih hrest hdigits.2.2)

/-- A text of a mark, or none, and as many characters as a hash has digits. -/
structure IsSpelled (s : String) (animated : Bool) (digits : List Char) : Prop where
  toList_eq : s.toList = mark animated ++ digits
  length_eq : digits.length = 32

theorem ofDigits_eq_ok_iff {animated : Bool} {digits : List Char} {hash : ImageHash} :
    ofDigits animated digits = .ok hash ↔
      hash.animated = animated ∧ bytesOfPairs? digits = some hash.bytes := by
  unfold ofDigits
  cases hbytes : bytesOfPairs? digits with
  | none => simp
  | some bytes =>
      simp only
      split
      · obtain ⟨moving, kept, hkept⟩ := hash
        simp [eq_comm]
      · rename_i hlength
        constructor
        · intro hread
          contradiction
        · rintro ⟨-, heq⟩
          rw [Option.some.inj heq] at hlength
          exact absurd hash.length_bytes hlength

/-- Pairs are never taken for the mark, and a mark is never taken for a pair. -/
theorem ofText_of_isSpelled {s : String} {animated : Bool} {digits : List Char}
    (hs : IsSpelled s animated digits) (hdigits : IsPaired digits) :
    ofText s = ofDigits animated digits := by
  rw [ofText, hs.toList_eq]
  cases animated with
  | true => rfl
  | false =>
      simp only [mark, Bool.false_eq_true, if_false, List.nil_append]
      split
      · have hmark := hdigits.plus_or_isHexDigit '_' (by simp)
        contradiction
      · rfl

theorem text_eq (hash : ImageHash) : hash.text = String.ofList
    (mark hash.animated ++ hash.bytes.flatMap fun byte => padded 16 2 byte.toNat) := by
  cases hanimated : hash.animated <;> simp [text, mark, hanimated]

/-- A text of sixteen pairs is read, and a zero is written for every plus sign. -/
theorem exists_ofText_eq_ok {s : String} {animated : Bool} {digits : List Char}
    (hs : IsSpelled s animated digits) (hdigits : IsPaired digits) :
    ∃ hash, ofText s = .ok hash ∧ hash.animated = animated ∧
      hash.text = String.ofList (mark animated ++ digits.map written) := by
  obtain ⟨bytes, hbytes⟩ := exists_bytesOfPairs? hdigits
  obtain ⟨-, hlength, hwritten⟩ := bytesOfPairs?_eq_some hbytes
  have hsixteen : bytes.length = 16 := by
    have hcount := hs.length_eq
    omega
  refine ⟨⟨animated, bytes, hsixteen⟩, ?_, rfl, ?_⟩
  · rw [ofText_of_isSpelled hs hdigits]
    exact ofDigits_eq_ok_iff.2 ⟨rfl, hbytes⟩
  · rw [text_eq, hwritten]

/-- Only texts of sixteen pairs are read. -/
theorem ofText_eq_ok_iff {s : String} {hash : ImageHash} :
    ofText s = .ok hash ↔ ∃ digits, IsSpelled s hash.animated digits ∧ IsPaired digits ∧
      hash.text = String.ofList (mark hash.animated ++ digits.map written) := by
  constructor
  · intro hread
    obtain ⟨animated, digits, hs, hdigits⟩ : ∃ animated digits,
        s.toList = mark animated ++ digits ∧ ofDigits animated digits = .ok hash := by
      unfold ofText at hread
      split at hread
      · rename_i digits hs
        exact ⟨true, digits, hs, hread⟩
      · exact ⟨false, s.toList, rfl, hread⟩
    obtain ⟨rfl, hbytes⟩ := ofDigits_eq_ok_iff.1 hdigits
    obtain ⟨hpaired, hlength, htext⟩ := bytesOfPairs?_eq_some hbytes
    rw [hash.length_bytes] at hlength
    exact ⟨digits, ⟨hs, hlength⟩, hpaired, by rw [text_eq, htext]⟩
  · rintro ⟨digits, hs, hpaired, htext⟩
    obtain ⟨read, hread, -, hreadText⟩ := exists_ofText_eq_ok hs hpaired
    -- both hashes have one text, which is read as one hash
    have hhash := hash.ofText_text
    rw [htext, ← hreadText, ofText_text] at hhash
    rw [hread, hhash]

/-- A text with its hexadecimal digits in their small forms. -/
def smallDigits (s : String) : String :=
  String.ofList (s.toList.map fun c => if isHexDigit c then c.toLower else c)

/-- The grammar of image hashes: thirty-two hexadecimal digits, after a mark if the
image moves; and what is made of a text that is read. -/
structure FollowsGrammar (s : String) : Prop where
  ok_iff : (∃ hash, ofText s = .ok hash) ↔
    ∃ animated digits, IsSpelled s animated digits ∧ ∀ c ∈ digits, isHexDigit c = true
  animated_iff : ∀ hash, ofText s = .ok hash → (hash.animated = true ↔ mark true <+: s.toList)
  text_eq : ∀ hash, ofText s = .ok hash → hash.text = smallDigits s

theorem prefix_mark_iff {s : String} {animated : Bool} {digits : List Char}
    (hs : IsSpelled s animated digits) (hdigits : IsPaired digits) :
    animated = true ↔ mark true <+: s.toList := by
  rw [hs.toList_eq]
  cases animated with
  | true => simp
  | false =>
      refine ⟨nofun, fun hmark => ?_⟩
      have hline := hdigits.plus_or_isHexDigit '_' (hmark.subset (by decide))
      contradiction

theorem smallDigits_eq {s : String} {animated : Bool} {digits : List Char}
    (hs : IsSpelled s animated digits) (hdigits : ∀ c ∈ digits, isHexDigit c = true) :
    smallDigits s = String.ofList (mark animated ++ digits.map written) := by
  have hmark : (mark animated).map (fun c => if isHexDigit c then c.toLower else c) =
      mark animated := by
    cases animated <;> decide
  have hsmall : digits.map (fun c => if isHexDigit c then c.toLower else c) =
      digits.map written := by
    apply List.map_congr_left
    intro c hc
    have hplus : c ≠ '+' := by
      rintro rfl
      exact absurd (hdigits '+' hc) (by decide)
    rw [if_pos (hdigits c hc), written, if_neg hplus]
  rw [smallDigits, hs.toList_eq, List.map_append, hmark, hsmall]

/-- The grammar has no plus sign, so a text with one that is read departs from it. -/
theorem not_followsGrammar_of_plus {s : String} {hash : ImageHash} (hread : ofText s = .ok hash)
    (hplus : '+' ∈ s.toList) : ¬ FollowsGrammar s := by
  intro hgrammar
  obtain ⟨animated, digits, hs, hdigits⟩ := hgrammar.ok_iff.1 ⟨hash, hread⟩
  rw [hs.toList_eq] at hplus
  rcases List.mem_append.1 hplus with hmark | hdigit
  · cases animated <;> simp [mark] at hmark
  · exact absurd (hdigits '+' hdigit) (by decide)

/-- A text is read as the grammar has it exactly when it is not made of sixteen
pairs some of which begin with a plus sign.  In general a text is read just if it is
made of sixteen pairs, and a zero is written for every plus sign. -/
theorem followsGrammar_iff (s : String) :
    (FollowsGrammar s ↔ ∀ animated digits, IsSpelled s animated digits → IsPaired digits →
      '+' ∉ digits) ∧
    ∀ hash, ofText s = .ok hash ↔ ∃ digits, IsSpelled s hash.animated digits ∧
      IsPaired digits ∧ hash.text = String.ofList (mark hash.animated ++ digits.map written) := by
  refine ⟨⟨?_, ?_⟩, fun hash => ofText_eq_ok_iff⟩
  · intro hgrammar animated digits hs hdigits hplus
    obtain ⟨hash, hread, -, -⟩ := exists_ofText_eq_ok hs hdigits
    have hmem : '+' ∈ s.toList := hs.toList_eq ▸ List.mem_append_right _ hplus
    exact not_followsGrammar_of_plus hread hmem hgrammar
  · intro hplain
    have hhex : ∀ hash, ofText s = .ok hash → ∃ digits, IsSpelled s hash.animated digits ∧
        IsPaired digits ∧ (∀ c ∈ digits, isHexDigit c = true) ∧
        hash.text = String.ofList (mark hash.animated ++ digits.map written) := by
      intro hash hread
      obtain ⟨digits, hs, hpaired, htext⟩ := ofText_eq_ok_iff.1 hread
      refine ⟨digits, hs, hpaired, fun c hc => ?_, htext⟩
      have hplus : c ≠ '+' := fun heq => hplain _ _ hs hpaired (heq ▸ hc)
      exact (hpaired.plus_or_isHexDigit c hc).resolve_left hplus
    constructor
    · constructor
      · rintro ⟨hash, hread⟩
        obtain ⟨digits, hs, -, hdigits, -⟩ := hhex hash hread
        exact ⟨hash.animated, digits, hs, hdigits⟩
      · rintro ⟨animated, digits, hs, hdigits⟩
        obtain ⟨hash, hread, -, -⟩ :=
          exists_ofText_eq_ok hs (isPaired_of_isHexDigit 16 hs.length_eq hdigits)
        exact ⟨hash, hread⟩
    · intro hash hread
      obtain ⟨digits, hs, hpaired, -, -⟩ := hhex hash hread
      exact prefix_mark_iff hs hpaired
    · intro hash hread
      obtain ⟨digits, hs, -, hdigits, htext⟩ := hhex hash hread
      rw [htext, smallDigits_eq hs hdigits]

/-- Thirty-one digits are read as sixteen bytes if a plus sign stands before them, and a
zero is written for it. -/
theorem not_followsGrammar_plus :
    ofText "+1acefe340fafb4ecefae407f3abdb32" =
        .ok ⟨false, [0x01, 0xac, 0xef, 0xe3, 0x40, 0xfa, 0xfb, 0x4e, 0xce, 0xfa, 0xe4, 0x07,
          0xf3, 0xab, 0xdb, 0x32], rfl⟩ ∧
      ¬ FollowsGrammar "+1acefe340fafb4ecefae407f3abdb32" := by
  have hread : ofText "+1acefe340fafb4ecefae407f3abdb32" =
      .ok ⟨false, [0x01, 0xac, 0xef, 0xe3, 0x40, 0xfa, 0xfb, 0x4e, 0xce, 0xfa, 0xe4, 0x07,
        0xf3, 0xab, 0xdb, 0x32], rfl⟩ := rfl
  exact ⟨hread, not_followsGrammar_of_plus hread (by decide)⟩

end ImageHash

end AuditFields
