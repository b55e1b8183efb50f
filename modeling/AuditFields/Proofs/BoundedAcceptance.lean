/-
Bounds as the only conditions.  A candidate of a shape that is taken stands for a value,
and is accepted as that value exactly if it lies within the bounds of the codec.  Lists of
identifiers are apart, as they are counted before repeated ones are dropped.
-/
import AuditFields.Proofs.IdentifierSets

namespace AuditFields

namespace Codec

/-- Codecs that can declare bounds on their values. -/
def DeclaresBounds : Codec → Prop
  | .scalar (.int _ _) | .scalar (.text _ _ _) | .scalar (.optionalText _) | .idArray _ _
  | .stringArray _ _ _ | .stringSet _ | .objectArray _ => True
  | .scalar (.bool _) | .scalar .color | .scalar (.id _) | .scalar (.flags _)
  | .scalar (.enum _ _) | .scalar .timestamp | .scalar .imageHash | .scalar .object
  | .nestedArray _ => False

/-- The value that a candidate stands for, if its shape is taken, whatever the bounds. -/
def StandsFor : (codec : Codec) → Candidate → codec.Value → Prop
  | .scalar (.int _ _), candidate, value => candidate.asInteger? = some value.toInt
  | .scalar (.text _ _ _), candidate, value => candidate.asString? = some value
  | .scalar (.optionalText _), candidate, value =>
      candidate = .null ∧ value = none ∨
        ∃ s, candidate.asString? = some s ∧ value = if s = "" then none else some s
  | .idArray _ _, candidate, value =>
      candidate = .null ∧ value = none ∨ ∃ ids, candidate.Lists ids ∧ value = normalizeIds ids
  | .stringArray empties _ _, candidate, value =>
      candidate = .null ∧ value = none ∨
        ∃ strings, candidate.ListsTexts strings ∧
          empties.normalize List.isEmpty (some strings) = value
  | .stringSet _, candidate, value =>
      ∃ items, candidate.HoldsItems items ∧ TextSet.ofItems? items = value
  | .objectArray _, candidate, value =>
      candidate = .null ∧ value = none ∨
        ∃ objects, candidate.ListsObjects objects ∧
          EmptyRule.unset.normalize List.isEmpty (some objects) = value
  | .scalar (.bool _), _, _ | .scalar .color, _, _ | .scalar (.id _), _, _
  | .scalar (.flags _), _, _ | .scalar (.enum _ _), _, _ | .scalar .timestamp, _, _
  | .scalar .imageHash, _, _ | .scalar .object, _, _ | .nestedArray _, _, _ => False

/-- A list counts as many items as what becomes of it. -/
theorem contains_upTo_of_normalize {α : Type} {rule : EmptyRule} {limit : Option Nat}
    {items : List α}
    (hkept : ∀ kept, rule.normalize List.isEmpty (some items) = some kept →
      (Bounds.upTo limit).contains kept.length = true) :
    (Bounds.upTo limit).contains items.length = true := by
  cases items with
  | nil => cases limit <;> rfl
  | cons first rest => exact hkept _ (rule.normalize_list_of_ne_nil (List.cons_ne_nil _ _))

theorem acceptStrings_iff {empties : EmptyRule} {maxLength maxItems : Option Nat}
    {candidate : Candidate} {value : Option (List String)} :
    acceptStrings empties maxLength maxItems candidate = .ok value ↔
      (stringArray empties maxLength maxItems).StandsFor candidate value ∧
        (stringArray empties maxLength maxItems).IsWithin value := by
  constructor
  · intro hvalue
    refine ⟨?_, isWithin_acceptStrings hvalue⟩
    rcases acceptStrings_eq_ok_iff.1 hvalue with hnull | ⟨strings, hstrings, -, -, hkept⟩
    · exact Or.inl hnull
    · exact Or.inr ⟨strings, hstrings, hkept⟩
  · rintro ⟨hnull | ⟨strings, hstrings, rfl⟩, hwithin⟩
    · exact acceptStrings_eq_ok_iff.2 (Or.inl hnull)
    · have hcount := contains_upTo_of_normalize fun kept hkept => (hwithin kept hkept).1
      have hlength : ∀ s ∈ strings, (Bounds.upTo maxLength).contains s.length = true := by
        cases strings with
        | nil => exact List.forall_mem_nil _
        | cons first rest =>
            exact (hwithin _ (empties.normalize_list_of_ne_nil (List.cons_ne_nil _ _))).2
      exact acceptStrings_eq_ok_iff.2 (Or.inr ⟨strings, hstrings, hlength, hcount, rfl⟩)

theorem acceptObjects_iff {maxItems : Option Nat} {candidate : Candidate}
    {value : Option (List WireObject)} :
    acceptObjects maxItems candidate = .ok value ↔
      (objectArray maxItems).StandsFor candidate value ∧
        (objectArray maxItems).IsWithin value := by
  constructor
  · intro hvalue
    refine ⟨?_, isWithin_acceptObjects hvalue⟩
    rcases acceptObjects_eq_ok_iff.1 hvalue with hnull | ⟨objects, hobjects, -, hkept⟩
    · exact Or.inl hnull
    · exact Or.inr ⟨objects, hobjects, hkept⟩
  · rintro ⟨hnull | ⟨objects, hobjects, rfl⟩, hwithin⟩
    · exact acceptObjects_eq_ok_iff.2 (Or.inl hnull)
    · have hcount := contains_upTo_of_normalize hwithin
      exact acceptObjects_eq_ok_iff.2 (Or.inr ⟨objects, hobjects, hcount, rfl⟩)

/-- What is accepted is what the candidate stands for, and within the bounds. -/
theorem standsFor_accept {codec : Codec} (hbounded : codec.DeclaresBounds)
    {candidate : Candidate} {value : codec.Value} (hvalue : codec.accept candidate = .ok value) :
    codec.StandsFor candidate value ∧ codec.IsWithin value := by
  cases codec with
  | scalar codec =>
      cases codec with
      | int => exact acceptInt_eq_ok_iff.1 hvalue
      | text => exact checkLength_eq_ok_iff.1 hvalue
      | optionalText => exact acceptOptionalText_eq_ok_iff.1 hvalue
      | bool | color | id | flags | enum | timestamp | imageHash | object =>
          exact hbounded.elim
  | idArray => exact ⟨null_or_lists_of_acceptIds hvalue, isWithin_acceptIds hvalue⟩
  | stringArray => exact acceptStrings_iff.1 hvalue
  | stringSet => exact acceptTextSet_eq_ok_iff.1 hvalue
  | objectArray => exact acceptObjects_iff.1 hvalue
  | nestedArray => exact hbounded.elim

theorem accept_of_standsFor {codec : Codec}
    (hids : ∀ space maxItems, codec ≠ .idArray space maxItems) {candidate : Candidate}
    {value : codec.Value} (hvalue : codec.StandsFor candidate value)
    (hwithin : codec.IsWithin value) : codec.accept candidate = .ok value := by
  cases codec with
  | scalar codec =>
      cases codec with
      | int => exact acceptInt_eq_ok_iff.2 ⟨hvalue, hwithin⟩
      | text => exact checkLength_eq_ok_iff.2 ⟨hvalue, hwithin⟩
      | optionalText => exact acceptOptionalText_eq_ok_iff.2 ⟨hvalue, hwithin⟩
      | bool | color | id | flags | enum | timestamp | imageHash | object => exact hvalue.elim
  | idArray space maxItems => exact absurd rfl (hids space maxItems)
  | stringArray => exact acceptStrings_iff.2 ⟨hvalue, hwithin⟩
  | stringSet => exact acceptTextSet_eq_ok_iff.2 ⟨hvalue, hwithin⟩
  | objectArray => exact acceptObjects_iff.2 ⟨hvalue, hwithin⟩
  | nestedArray => exact hvalue.elim

/-- A number of any size is accepted within the bounds and 64 bits with a sign. -/
theorem exists_acceptInt_iff {range : Bounds} {candidate : Candidate} {n : Int}
    (hn : candidate.asInteger? = some n) :
    (∃ value, acceptInt range candidate = .ok value) ↔
      range.contains n = true ∧ -0x8000000000000000 ≤ n ∧ n < 0x8000000000000000 := by
  simp only [acceptInt_eq_ok_iff, hn, Option.some.injEq]
  constructor
  · rintro ⟨value, rfl, hrange⟩
    exact ⟨hrange, value.le_toInt, value.toInt_lt⟩
  · rintro ⟨hrange, hlower, hupper⟩
    have hvalue : (Int64.ofInt n).toInt = n :=
      Int64.toInt_ofInt_of_le (by omega) (by omega)
    exact ⟨Int64.ofInt n, hvalue.symm, hvalue.symm ▸ hrange⟩

/-- Bounds hold of whatever is accepted, in whatever form it was given.  Lists of identifiers
apart, nothing that stands for a value within the bounds is refused, and so no number but for
the bounds or for its size. -/
theorem bounds_enforced_and_sufficient {codec : Codec} (hbounded : codec.DeclaresBounds) :
    (∀ candidate value, codec.accept candidate = .ok value →
        codec.StandsFor candidate value ∧ codec.IsWithin value) ∧
      ((∀ space maxItems, codec ≠ .idArray space maxItems) → ∀ candidate value,
        codec.StandsFor candidate value → codec.IsWithin value →
          codec.accept candidate = .ok value) ∧
      ∀ default range, codec = .int default range → ∀ candidate n,
        candidate.asInteger? = some n →
          ((∃ value, codec.accept candidate = .ok value) ↔
            range.contains n = true ∧ -0x8000000000000000 ≤ n ∧ n < 0x8000000000000000) := by
  refine ⟨fun _ _ => standsFor_accept hbounded, fun hids _ _ => accept_of_standsFor hids, ?_⟩
  rintro default range rfl candidate n hn
  exact exists_acceptInt_iff hn

/-- Two texts, one prebuilt, and a blank one are accepted as a set of nine characters where
nine are allowed. -/
theorem bounds_enforced_and_sufficient_tags :
    (stringSet (some 9)).DeclaresBounds ∧
      (stringSet (some 9)).StandsFor
        (.array [.string " spam", .domain (.string "ham"), .string " "])
        (some ⟨["ham", "spam"], by decide⟩) ∧
      (stringSet (some 9)).IsWithin (some ⟨["ham", "spam"], by decide⟩) ∧
      (stringSet (some 9)).accept
          (.array [.string " spam", .domain (.string "ham"), .string " "]) =
        .ok (some ⟨["ham", "spam"], by decide⟩) := by
  have hbounded : (stringSet (some 9)).DeclaresBounds := trivial
  obtain ⟨hwithin, haccepts, -⟩ := bounds_enforced_and_sufficient hbounded
  have hholds : (stringSet (some 9)).StandsFor
      (.array [.string " spam", .domain (.string "ham"), .string " "])
      (some ⟨["ham", "spam"], by decide⟩) :=
    ⟨["spam", "ham"], ⟨[" spam", "ham", " "], .cons rfl (.cons rfl (.cons rfl .nil)),
      by decide, by decide⟩, rfl⟩
  have hjoined : (stringSet (some 9)).IsWithin (some ⟨["ham", "spam"], by decide⟩) := by
    rintro _ ⟨⟩
    decide
  have haccepted := haccepts nofun _ _ hholds hjoined
  exact ⟨hbounded, (hwithin _ _ haccepted).1, hjoined, haccepted⟩

end Codec

end AuditFields
