/-
What candidates hold.  A candidate of a shape that is taken holds a number, a text, a list
of texts or of objects, or the items of a set, and there are several shapes for each.  It
is accepted exactly if what it holds is within the bounds.
-/
import AuditFields.Codec.Accept
import Mathlib.Data.List.Forall2

namespace AuditFields

section Results

variable {ε α β : Type}

theorem exists_of_map_eq_ok {f : α → β} {result : Except ε α} {b : β}
    (hmap : result.map f = .ok b) : ∃ a, result = .ok a ∧ f a = b := by
  cases result with
  | error e => contradiction
  | ok a => exact ⟨a, rfl, Except.ok.inj hmap⟩

theorem eq_error_of_map_eq_error {f : α → β} {result : Except ε α} {e : ε}
    (hmap : result.map f = .error e) : result = .error e := by
  cases result with
  | error first => exact congrArg Except.error (Except.error.inj hmap)
  | ok a => contradiction

theorem exists_of_bind_eq_ok {f : α → Except ε β} {result : Except ε α} {b : β}
    (hbind : (result >>= f) = .ok b) : ∃ a, result = .ok a ∧ f a = .ok b := by
  cases result with
  | error e => contradiction
  | ok a => exact ⟨a, rfl, hbind⟩

end Results

namespace Bounds

theorem check_eq_ok_iff {bounds : Bounds} {measure : Measure} {n : Int} :
    bounds.check measure n = .ok () ↔ bounds.contains n = true := by
  rw [check]
  split
  · rename_i hcontains
    exact iff_of_true rfl hcontains
  · rename_i hcontains
    exact iff_of_false nofun hcontains

/-- What is made of a checked number is made only within the bounds. -/
theorem map_check_eq_ok_iff {α : Type} {bounds : Bounds} {measure : Measure} {n : Int}
    {make : Unit → α} {value : α} :
    (bounds.check measure n).map make = .ok value ↔
      bounds.contains n = true ∧ make () = value := by
  constructor
  · intro hvalue
    obtain ⟨⟨⟩, hcheck, hmake⟩ := exists_of_map_eq_ok hvalue
    exact ⟨check_eq_ok_iff.1 hcheck, hmake⟩
  · rintro ⟨hcontains, rfl⟩
    rw [check_eq_ok_iff.2 hcontains]
    rfl

end Bounds

namespace Candidate

/-- The number that a candidate holds, whatever its size. -/
def asInteger? : Candidate → Option Int
  | .integer n => some n
  | .domain (.integer n) => some n.toInt
  | _ => none

/-- Items that are texts. -/
def AreTexts (items : List Candidate) (strings : List String) : Prop :=
  List.Forall₂ (fun item s => item.asString? = some s) items strings

/-- Texts in order, as an array or as a prebuilt list. -/
def ListsTexts : Candidate → List String → Prop
  | .array items, strings => AreTexts items strings
  | .domain (.strings given), strings => given = strings
  | _, _ => False

/-- Objects in order, as an array or as a prebuilt list. -/
def ListsObjects : Candidate → List WireObject → Prop
  | .array items, objects =>
      List.Forall₂ (fun item members => item = .domain (.object members)) items objects
  | .domain (.objects given), objects => given = objects
  | _, _ => False

/-- Texts without commas, and what is left of them when they are trimmed. -/
def TrimTo (strings items : List String) : Prop :=
  (∀ s ∈ strings, ',' ∉ s.toList) ∧ (strings.map Text.trimmed).filter (· ≠ "") = items

/-- The items of a set, from a text with commas, an array or a prebuilt set. -/
def HoldsItems : Candidate → List String → Prop
  | .null, items => items = []
  | .string s, items => Text.commaItems s = items
  | .array given, items => ∃ strings, AreTexts given strings ∧ TrimTo strings items
  | .domain (.stringSet set), items => TrimTo set.items items
  | _, _ => False

theorem areTexts_map_string {given strings : List String} :
    AreTexts (given.map .string) strings ↔ given = strings := by
  rw [AreTexts, List.forall₂_map_left_iff]
  simp only [asString?, Option.some.injEq]
  rw [List.forall₂_eq_eq_eq]

end Candidate

/-- A number is taken over only if it lies within 64 bits too. -/
theorem signed64_eq_ok_iff {n : Int} {value : Int64} :
    (if -0x8000000000000000 ≤ n ∧ n < 0x8000000000000000 then .ok (Int64.ofInt n)
      else .error (.constraint .signed64) : Except Rejection Int64) = .ok value ↔
      n = value.toInt := by
  constructor
  · intro hvalue
    split at hvalue
    · rw [← Except.ok.inj hvalue, Int64.toInt_ofInt_of_le (by omega) (by omega)]
    · contradiction
  · rintro rfl
    have hlower := value.le_toInt
    have hupper := value.toInt_lt
    rw [if_pos ⟨hlower, hupper⟩, Int64.ofInt_toInt]

theorem acceptInt_eq_ok_iff {range : Bounds} {candidate : Candidate} {value : Int64} :
    acceptInt range candidate = .ok value ↔
      candidate.asInteger? = some value.toInt ∧ range.contains value.toInt = true := by
  have hchecked (n : Int) : (do
      range.check .value n
      if -0x8000000000000000 ≤ n ∧ n < 0x8000000000000000 then .ok (Int64.ofInt n)
      else .error (.constraint .signed64) : Except Rejection Int64) = .ok value ↔
      some n = some value.toInt ∧ range.contains value.toInt = true := by
    rw [Option.some.injEq]
    constructor
    · intro hvalue
      obtain ⟨⟨⟩, hrange, hsigned⟩ := exists_of_bind_eq_ok hvalue
      obtain rfl := signed64_eq_ok_iff.1 hsigned
      exact ⟨rfl, Bounds.check_eq_ok_iff.1 hrange⟩
    · rintro ⟨rfl, hrange⟩
      rw [Bounds.check_eq_ok_iff.2 hrange]
      exact signed64_eq_ok_iff.2 rfl
  unfold acceptInt
  split
  · exact hchecked _
  · exact hchecked _
  · constructor
    · intro hvalue
      contradiction
    · rintro ⟨hn, -⟩
      simp only [Candidate.asInteger?] at hn
      contradiction

/-- A text is taken over only within its bounds. -/
theorem checkLength_eq_ok_iff {length : Bounds} {rejection : Rejection} {text : Option String}
    {value : String} :
    (match text with
      | some s => (length.checkLength s).map fun _ => s
      | none => .error rejection : Except Rejection String) = .ok value ↔
      text = some value ∧ length.contains value.length = true := by
  cases text with
  | none => exact iff_of_false nofun nofun
  | some s =>
      refine Bounds.map_check_eq_ok_iff.trans ?_
      rw [Option.some.injEq]
      constructor
      · rintro ⟨hlength, rfl⟩
        exact ⟨rfl, hlength⟩
      · rintro ⟨rfl, hlength⟩
        exact ⟨hlength, rfl⟩

/-- Null and the empty text are none, any other text is bounded. -/
theorem acceptOptionalText_eq_ok_iff {length : Bounds} {candidate : Candidate}
    {value : Option String} :
    acceptOptionalText length candidate = .ok value ↔
      (candidate = .null ∧ value = none ∨
        ∃ s, candidate.asString? = some s ∧ value = if s = "" then none else some s) ∧
      ∀ s, value = some s → length.contains s.length = true := by
  constructor
  · intro hvalue
    unfold acceptOptionalText at hvalue
    split at hvalue
    · obtain rfl := Except.ok.inj hvalue
      exact ⟨Or.inl ⟨rfl, rfl⟩, nofun⟩
    · split at hvalue
      · rename_i s hs
        split at hvalue
        · rename_i hempty
          obtain rfl := Except.ok.inj hvalue
          exact ⟨Or.inr ⟨s, hs, (if_pos hempty).symm⟩, nofun⟩
        · rename_i hempty
          obtain ⟨hlength, rfl⟩ := Bounds.map_check_eq_ok_iff.1 hvalue
          refine ⟨Or.inr ⟨s, hs, (if_neg hempty).symm⟩, ?_⟩
          rintro _ ⟨⟩
          exact hlength
      · contradiction
  · rintro ⟨⟨rfl, rfl⟩ | ⟨s, hs, rfl⟩, hwithin⟩
    · rfl
    · unfold acceptOptionalText
      split
      · contradiction
      · simp only [hs]
        split
        · rfl
        · rename_i hempty
          exact Bounds.map_check_eq_ok_iff.2 ⟨hwithin s (if_neg hempty), rfl⟩

namespace Codec

theorem acceptItems_eq_ok_iff {α : Type} {accept : Candidate → Except Rejection α}
    {items : List Candidate} {values : List α} :
    acceptItems accept items = .ok values ↔
      List.Forall₂ (fun item value => accept item = .ok value) items values := by
  constructor
  · intro hvalues
    induction items generalizing values with
    | nil =>
        rw [← Except.ok.inj hvalues]
        exact .nil
    | cons item rest ih =>
        unfold acceptItems at hvalues
        split at hvalues
        · contradiction
        · rename_i value hitem
          obtain ⟨tail, hrest, rfl⟩ := exists_of_map_eq_ok hvalues
          exact .cons hitem (ih hrest)
  · intro hvalues
    induction hvalues with
    | nil => rfl
    | cons hitem _ ih =>
        simp only [acceptItems, hitem, ih]
        rfl

/-- Texts are accepted together exactly if each is within the bound. -/
theorem acceptTexts_eq_ok_iff {maxLength : Option Nat} {items : List Candidate}
    {strings : List String} :
    acceptItems (acceptItemText maxLength) items = .ok strings ↔
      Candidate.AreTexts items strings ∧
        ∀ s ∈ strings, (Bounds.upTo maxLength).contains s.length = true := by
  rw [acceptItems_eq_ok_iff]
  constructor
  · intro hstrings
    induction hstrings with
    | nil => exact ⟨.nil, List.forall_mem_nil _⟩
    | cons hitem _ ih =>
        obtain ⟨htext, hlength⟩ := checkLength_eq_ok_iff.1 hitem
        exact ⟨.cons htext ih.1, List.forall_mem_cons.2 ⟨hlength, ih.2⟩⟩
  · rintro ⟨htexts, hwithin⟩
    induction htexts with
    | nil => exact .nil
    | cons htext _ ih =>
        rw [List.forall_mem_cons] at hwithin
        exact .cons (checkLength_eq_ok_iff.2 ⟨htext, hwithin.1⟩) (ih hwithin.2)

/-- Texts are bounded one by one and then together. -/
theorem acceptStrings_eq_ok_iff {empties : EmptyRule} {maxLength maxItems : Option Nat}
    {candidate : Candidate} {value : Option (List String)} :
    acceptStrings empties maxLength maxItems candidate = .ok value ↔
      candidate = .null ∧ value = none ∨
        ∃ strings, candidate.ListsTexts strings ∧
          (∀ s ∈ strings, (Bounds.upTo maxLength).contains s.length = true) ∧
          (Bounds.upTo maxItems).contains strings.length = true ∧
          empties.normalize List.isEmpty (some strings) = value := by
  constructor
  · intro hvalue
    unfold acceptStrings at hvalue
    split at hvalue
    · exact Or.inl ⟨rfl, (Except.ok.inj hvalue).symm⟩
    · split at hvalue
      · contradiction
      · rename_i strings hstrings
        obtain ⟨htexts, hwithin⟩ := acceptTexts_eq_ok_iff.1 hstrings
        exact Or.inr ⟨strings, htexts, hwithin, Bounds.map_check_eq_ok_iff.1 hvalue⟩
    · split at hvalue
      · contradiction
      · rename_i strings hstrings
        obtain ⟨htexts, hwithin⟩ := acceptTexts_eq_ok_iff.1 hstrings
        rw [Candidate.areTexts_map_string] at htexts
        exact Or.inr ⟨strings, htexts, hwithin, Bounds.map_check_eq_ok_iff.1 hvalue⟩
    · contradiction
  · rintro (⟨rfl, rfl⟩ | ⟨strings, hstrings, hwithin, hfinish⟩)
    · rfl
    · unfold Candidate.ListsTexts at hstrings
      split at hstrings
      · simp only [acceptStrings, acceptTexts_eq_ok_iff.2 ⟨hstrings, hwithin⟩]
        exact Bounds.map_check_eq_ok_iff.2 hfinish
      · have htexts := Candidate.areTexts_map_string.2 hstrings
        simp only [acceptStrings, acceptTexts_eq_ok_iff.2 ⟨htexts, hwithin⟩]
        exact Bounds.map_check_eq_ok_iff.2 hfinish
      · exact hstrings.elim

theorem trimTo_cons_iff {s : String} {rest items : List String} :
    Candidate.TrimTo (s :: rest) items ↔
      ',' ∉ s.toList ∧ ∃ kept, Candidate.TrimTo rest kept ∧
        (if Text.trimmed s = "" then kept else Text.trimmed s :: kept) = items := by
  simp only [Candidate.TrimTo, List.forall_mem_cons, List.map_cons, List.filter_cons, ne_eq,
    decide_not, Bool.not_eq_true', decide_eq_false_iff_not, ite_not]
  constructor
  · rintro ⟨⟨hcomma, hcommas⟩, rfl⟩
    exact ⟨hcomma, _, ⟨hcommas, rfl⟩, rfl⟩
  · rintro ⟨hcomma, _, ⟨hcommas, rfl⟩, rfl⟩
    exact ⟨⟨hcomma, hcommas⟩, rfl⟩

theorem collectItems_eq_ok_iff {strings items : List String} :
    collectItems strings = .ok items ↔ Candidate.TrimTo strings items := by
  induction strings generalizing items with
  | nil =>
      rw [collectItems, Except.ok.injEq]
      exact ⟨fun hitems => ⟨List.forall_mem_nil _, hitems⟩, And.right⟩
  | cons s rest ih =>
      rw [trimTo_cons_iff, collectItems]
      simp only [← ih, List.contains_iff_mem]
      split
      · rename_i hcomma
        exact iff_of_false nofun fun hitems => hitems.1 hcomma
      · rename_i hcomma
        constructor
        · intro hitems
          obtain ⟨kept, hkept, hitems⟩ := exists_of_map_eq_ok hitems
          exact ⟨hcomma, kept, hkept, hitems⟩
        · rintro ⟨-, kept, hkept, rfl⟩
          rw [hkept]
          rfl

/-- The items of a set are accepted exactly if the candidate holds them. -/
theorem acceptSetItems_eq_ok_iff {candidate : Candidate} {items : List String} :
    acceptSetItems candidate = .ok items ↔ candidate.HoldsItems items := by
  constructor
  · intro hitems
    unfold acceptSetItems at hitems
    split at hitems
    · exact (Except.ok.inj hitems).symm
    · exact Except.ok.inj hitems
    · split at hitems
      · contradiction
      · rename_i strings hstrings
        exact ⟨strings, (acceptTexts_eq_ok_iff.1 hstrings).1, collectItems_eq_ok_iff.1 hitems⟩
    · exact collectItems_eq_ok_iff.1 hitems
    · contradiction
  · intro hitems
    unfold Candidate.HoldsItems at hitems
    split at hitems
    · rw [hitems]
      rfl
    · exact congrArg Except.ok hitems
    · obtain ⟨strings, hstrings, htrim⟩ := hitems
      have htexts := (@acceptTexts_eq_ok_iff none).2 ⟨hstrings, fun _ _ => rfl⟩
      simp only [acceptSetItems, htexts]
      exact collectItems_eq_ok_iff.2 htrim
    · exact collectItems_eq_ok_iff.2 hitems
    · exact hitems.elim

/-- A set is bounded in its joined form. -/
theorem acceptTextSet_eq_ok_iff {maxLength : Option Nat} {candidate : Candidate}
    {value : Option TextSet} :
    acceptTextSet maxLength candidate = .ok value ↔
      (∃ items, candidate.HoldsItems items ∧ TextSet.ofItems? items = value) ∧
        ∀ set, value = some set → (Bounds.upTo maxLength).contains set.joined.length = true := by
  constructor
  · intro hvalue
    unfold acceptTextSet at hvalue
    split at hvalue
    · contradiction
    · rename_i items hitems
      have hholds := acceptSetItems_eq_ok_iff.1 hitems
      split at hvalue
      · rename_i hset
        obtain rfl := Except.ok.inj hvalue
        exact ⟨⟨items, hholds, hset⟩, nofun⟩
      · rename_i set hset
        obtain ⟨hlength, rfl⟩ := Bounds.map_check_eq_ok_iff.1 hvalue
        refine ⟨⟨items, hholds, hset⟩, ?_⟩
        rintro _ ⟨⟩
        exact hlength
  · rintro ⟨⟨items, hitems, rfl⟩, hwithin⟩
    simp only [acceptTextSet, acceptSetItems_eq_ok_iff.2 hitems]
    split
    · rename_i hset
      rw [hset]
    · rename_i set hset
      rw [hset]
      exact Bounds.map_check_eq_ok_iff.2 ⟨hwithin set hset, rfl⟩

theorem acceptItemObject_eq_ok_iff {item : Candidate} {members : WireObject} :
    acceptItemObject item = .ok members ↔ item = .domain (.object members) := by
  unfold acceptItemObject
  split
  · rw [Except.ok.injEq, Candidate.domain.injEq, ChangeValue.object.injEq]
  · rename_i hother
    exact iff_of_false nofun (hother members)

theorem acceptObjects_eq_ok_iff {maxItems : Option Nat} {candidate : Candidate}
    {value : Option (List WireObject)} :
    acceptObjects maxItems candidate = .ok value ↔
      candidate = .null ∧ value = none ∨
        ∃ objects, candidate.ListsObjects objects ∧
          (Bounds.upTo maxItems).contains objects.length = true ∧
          EmptyRule.unset.normalize List.isEmpty (some objects) = value := by
  constructor
  · intro hvalue
    unfold acceptObjects at hvalue
    split at hvalue
    · exact Or.inl ⟨rfl, (Except.ok.inj hvalue).symm⟩
    · split at hvalue
      · contradiction
      · rename_i objects hobjects
        simp only [acceptItems_eq_ok_iff, acceptItemObject_eq_ok_iff] at hobjects
        exact Or.inr ⟨objects, hobjects, Bounds.map_check_eq_ok_iff.1 hvalue⟩
    · exact Or.inr ⟨_, rfl, Bounds.map_check_eq_ok_iff.1 hvalue⟩
    · contradiction
  · rintro (⟨rfl, rfl⟩ | ⟨objects, hobjects, hfinish⟩)
    · rfl
    · unfold Candidate.ListsObjects at hobjects
      split at hobjects
      · simp only [← acceptItemObject_eq_ok_iff, ← acceptItems_eq_ok_iff] at hobjects
        simp only [acceptObjects, hobjects]
        exact Bounds.map_check_eq_ok_iff.2 hfinish
      · subst hobjects
        exact Bounds.map_check_eq_ok_iff.2 hfinish
      · exact hobjects.elim

end Codec

end AuditFields
