/-
Declared bounds.  A value that validation accepted lies within every bound of its
codec, whatever form the candidate had.  Bounds are checked before a list of
identifiers is sorted, and sorting makes no list longer.
-/
import AuditFields.Proofs.AcceptedValues

namespace AuditFields

namespace Bounds

theorem contains_upTo_some {limit count : Nat} :
    (upTo (some limit)).contains count = decide (count ≤ limit) := by
  simp [upTo, contains]

/-- What lies within an upper limit still does when it gets smaller. -/
theorem contains_upTo_of_le {limit : Option Nat} {m n : Nat} (hle : m ≤ n)
    (hn : (upTo limit).contains n = true) : (upTo limit).contains m = true := by
  cases limit with
  | none => rfl
  | some limit =>
      rw [contains_upTo_some, decide_eq_true_eq] at hn ⊢
      exact Nat.le_trans hle hn

end Bounds

namespace Ascending

universe u

variable {α : Type u} [LT α] [DecidableLT α] [DecidableEq α]

theorem length_insert_le (a : α) (items : List α) :
    (insert a items).length ≤ items.length + 1 := by
  induction items with
  | nil => exact Nat.le_refl _
  | cons b rest ih =>
      unfold insert
      by_cases hlt : a < b
      · rw [if_pos hlt]
        exact Nat.le_refl _
      · rw [if_neg hlt]
        by_cases heq : a = b
        · rw [if_pos heq]
          exact Nat.le_succ _
        · rw [if_neg heq, List.length_cons]
          exact Nat.succ_le_succ ih

/-- Sorting drops repeated elements and adds none. -/
theorem length_ofList_le (items : List α) : (ofList items).length ≤ items.length := by
  induction items with
  | nil => exact Nat.le_refl _
  | cons a rest ih => exact Nat.le_trans (length_insert_le a _) (Nat.succ_le_succ ih)

end Ascending

namespace ScalarCodec

/-- Values within the bounds that their codec declares. -/
def IsWithin : (codec : ScalarCodec) → codec.Value → Prop
  | .int _ range, value => range.contains value.toInt = true
  | .text _ length _, value => length.contains value.length = true
  | .optionalText length, value => ∀ s, value = some s → length.contains s.length = true
  | .bool _, _ | .color, _ | .id _, _ | .flags _, _ | .enum _ _, _ | .timestamp, _
  | .imageHash, _ | .object, _ => True

theorem isWithin_accept {codec : ScalarCodec} {candidate : Candidate} {value : codec.Value}
    (hvalue : codec.accept candidate = .ok value) : codec.IsWithin value := by
  cases codec with
  | int => exact (acceptInt_eq_ok_iff.1 hvalue).2
  | text => exact (checkLength_eq_ok_iff.1 hvalue).2
  | optionalText => exact (acceptOptionalText_eq_ok_iff.1 hvalue).2
  | bool | color | id | flags | enum | timestamp | imageHash | object => trivial

end ScalarCodec

namespace NestedKind

/-- Objects all of whose attributes lie within their bounds. -/
def IsWithin (kind : NestedKind) (item : kind.Item) : Prop :=
  ∀ member ∈ kind.attributes item, member.field.codec.IsWithin member.value

theorem isWithin_validate {kind : NestedKind} {data : WireObject} {item : kind.Item}
    (hvalid : kind.validate data = .ok item) : kind.IsWithin item := by
  intro member hmem
  obtain ⟨-, candidate, hmember⟩ := attributes_of_validate hvalid member hmem
  exact ScalarCodec.isWithin_accept (ScalarField.accept_of_validate hmember)

end NestedKind

namespace Codec

/-- Values within the bounds that their codec declares. -/
def IsWithin : (codec : Codec) → codec.Value → Prop
  | .scalar codec, value => codec.IsWithin value
  | .idArray _ maxItems, value => ∀ ids, value = some ids →
      (Bounds.upTo maxItems).contains ids.length = true
  | .stringArray _ maxLength maxItems, value => ∀ strings, value = some strings →
      (Bounds.upTo maxItems).contains strings.length = true ∧
        ∀ s ∈ strings, (Bounds.upTo maxLength).contains s.length = true
  | .stringSet maxLength, value => ∀ set, value = some set →
      (Bounds.upTo maxLength).contains set.joined.length = true
  | .objectArray maxItems, value => ∀ objects, value = some objects →
      (Bounds.upTo maxItems).contains objects.length = true
  | .nestedArray kind, value => ∀ items, value = some items → ∀ item ∈ items, kind.IsWithin item

theorem normalizeIds_length_le {space : IdSpace} {ids kept : List (Snowflake space)}
    (hkept : normalizeIds ids = some kept) : kept.length ≤ ids.length := by
  have hlist := (EmptyRule.ne_nil_of_normalize_unset hkept).1
  rw [← Option.some.inj hlist]
  exact Ascending.length_ofList_le ids

/-- The number of identifiers is bounded before they are sorted, and so afterwards. -/
theorem isWithin_acceptIds {space : IdSpace} {maxItems : Option Nat} {candidate : Candidate}
    {value : Option (List (Snowflake space))}
    (hvalue : acceptIds maxItems candidate = .ok value) :
    (idArray space maxItems).IsWithin value := by
  rintro kept rfl
  rcases acceptIds_eq_ok hvalue with hnone | ⟨ids, hcount, hids⟩
  · contradiction
  · have hcounted := Bounds.check_eq_ok_iff.1 hcount
    exact Bounds.contains_upTo_of_le (normalizeIds_length_le hids.symm) hcounted

theorem isWithin_acceptStrings {empties : EmptyRule} {maxLength maxItems : Option Nat}
    {candidate : Candidate} {value : Option (List String)}
    (hvalue : acceptStrings empties maxLength maxItems candidate = .ok value) :
    (stringArray empties maxLength maxItems).IsWithin value := by
  rintro kept rfl
  rcases acceptStrings_eq_ok_iff.1 hvalue with ⟨-, hnone⟩ | ⟨strings, -, hwithin, hcount, hkept⟩
  · contradiction
  · obtain ⟨hlist, -⟩ := (EmptyRule.normalize_eq_some_iff _ _ _ _).1 hkept
    rw [← Option.some.inj hlist]
    exact ⟨hcount, hwithin⟩

theorem isWithin_acceptObjects {maxItems : Option Nat} {candidate : Candidate}
    {value : Option (List WireObject)} (hvalue : acceptObjects maxItems candidate = .ok value) :
    (objectArray maxItems).IsWithin value := by
  rintro kept rfl
  rcases acceptObjects_eq_ok_iff.1 hvalue with ⟨-, hnone⟩ | ⟨objects, -, hcount, hkept⟩
  · contradiction
  · have hlist := (EmptyRule.ne_nil_of_normalize_unset hkept).1
    exact Option.some.inj hlist ▸ hcount

theorem isWithin_acceptNested {kind : NestedKind} {candidate : Candidate}
    {value : Option (List kind.Item)} (hinspects : (nestedArray kind).Inspects candidate)
    (hvalue : acceptNested kind candidate = .ok value) : (nestedArray kind).IsWithin value := by
  rintro kept rfl item hitem
  unfold acceptNested at hvalue
  split at hvalue
  · exact nomatch Except.ok.inj hvalue
  · obtain ⟨items, hitems, hkept⟩ := exists_of_map_eq_ok hvalue
    have hlist := (EmptyRule.ne_nil_of_normalize_unset hkept).1
    obtain ⟨candidate, -, haccepted⟩ :=
      exists_item_of_acceptItems hitems item (Option.some.inj hlist ▸ hitem)
    obtain ⟨members, -, hvalid⟩ := acceptItemNested_eq_ok haccepted
    exact NestedKind.isWithin_validate hvalid
  · exact hinspects.elim
  · contradiction

/-- Accepted values lie within the declared bounds. -/
theorem isWithin_accept {codec : Codec} {candidate : Candidate}
    (hinspects : codec.Inspects candidate) {value : codec.Value}
    (hvalue : codec.accept candidate = .ok value) : codec.IsWithin value := by
  cases codec with
  | scalar => exact ScalarCodec.isWithin_accept hvalue
  | idArray => exact isWithin_acceptIds hvalue
  | stringArray => exact isWithin_acceptStrings hvalue
  | stringSet => exact (acceptTextSet_eq_ok_iff.1 hvalue).2
  | objectArray => exact isWithin_acceptObjects hvalue
  | nestedArray => exact isWithin_acceptNested hinspects hvalue

end Codec

end AuditFields
