/-
Accepted values.  Whatever form a candidate has, the value that validation makes
of it is normal, so that it is read back from any object it is put into.  What
validation takes over unseen is apart: the objects of a prebuilt list.
-/
import AuditFields.Proofs.CodecReadback
import AuditFields.Proofs.JsonCandidates

namespace AuditFields

/-- A valid candidate is one that the codec accepts. -/
theorem Field.accept_of_validate {field : Field} {candidate : Candidate}
    {value : field.codec.Value} (hvalid : field.validate candidate = .ok value) :
    field.codec.accept candidate = .ok value := by
  cases haccept : field.codec.accept candidate with
  | error rejection =>
      simp only [validate, haccept] at hvalid
      contradiction
  | ok accepted =>
      simp only [validate, haccept] at hvalid
      rw [Except.ok.inj hvalid]

namespace ScalarCodec

/-- Empty text is accepted as none. -/
theorem ne_empty_of_acceptOptionalText {length : Bounds} {candidate : Candidate}
    {value : Option String} (hvalue : acceptOptionalText length candidate = .ok value) :
    value ≠ some "" := by
  rintro rfl
  rcases (acceptOptionalText_eq_ok_iff.1 hvalue).1 with ⟨-, hnone⟩ | ⟨s, -, hsome⟩
  · contradiction
  · split at hsome
    · contradiction
    · rename_i hne
      exact hne (Option.some.inj hsome).symm

/-- A code is accepted as the listed value it has, if it has one. -/
theorem ofCode_code_of_acceptEnum {kind : EnumKind} {candidate : Candidate}
    {value : EnumValue kind} (hvalue : acceptEnum kind candidate = .ok value) :
    EnumValue.ofCode value.code = value := by
  unfold acceptEnum at hvalue
  split at hvalue
  · split at hvalue
    · rw [← Except.ok.inj hvalue, EnumValue.code_ofCode]
    · contradiction
  · split at hvalue
    · rw [← Except.ok.inj hvalue, EnumValue.code_ofCode]
    · contradiction
  · contradiction

theorem ne_nil_of_acceptObject {candidate : Candidate} {value : Option WireObject}
    (hvalue : acceptObject candidate = .ok value) : value ≠ some [] := by
  rintro rfl
  unfold acceptObject at hvalue
  split at hvalue
  · exact nomatch Except.ok.inj hvalue
  · have hmembers := Except.ok.inj hvalue
    split at hmembers
    · contradiction
    · rename_i hne
      exact hne (Option.some.inj hmembers)
  · contradiction

/-- Accepted single values are normal, timestamps apart. -/
theorem isNormal_accept {codec : ScalarCodec} (hcodec : codec ≠ .timestamp)
    {candidate : Candidate} {value : codec.Value}
    (hvalue : codec.accept candidate = .ok value) : codec.IsNormal value := by
  cases codec with
  | optionalText => exact ne_empty_of_acceptOptionalText hvalue
  | enum => exact ofCode_code_of_acceptEnum hvalue
  | timestamp => exact absurd rfl hcodec
  | object => exact ne_nil_of_acceptObject hvalue
  | bool | int | text | color | id | flags | imageHash => trivial

end ScalarCodec

/-- An object that was validated attribute by attribute is normal. -/
theorem NestedKind.isNormal_validate {kind : NestedKind} {data : WireObject} {item : kind.Item}
    (hvalid : kind.validate data = .ok item) : kind.IsNormal item := by
  rw [← ofWire_of_validate hvalid]
  exact kind.isNormal_ofWire data

namespace Codec

/-- The values of accepted items come from the items. -/
theorem exists_item_of_acceptItems {α : Type} {accept : Candidate → Except Rejection α}
    {items : List Candidate} {values : List α} (hvalues : acceptItems accept items = .ok values) :
    ∀ value ∈ values, ∃ item ∈ items, accept item = .ok value := by
  rw [acceptItems_eq_ok_iff] at hvalues
  induction hvalues with
  | nil => exact List.forall_mem_nil _
  | cons hfirst _ ih =>
      intro value hmem
      rcases List.mem_cons.1 hmem with rfl | hmem
      · exact ⟨_, List.mem_cons_self, hfirst⟩
      · obtain ⟨item, hitem, haccept⟩ := ih value hmem
        exact ⟨item, List.mem_cons_of_mem _ hitem, haccept⟩

/-- What is left of texts without commas is fit for a set. -/
theorem isSetItem_of_trimTo {strings items : List String}
    (htrim : Candidate.TrimTo strings items) : ∀ item ∈ items, Text.IsSetItem item := by
  obtain ⟨hcommas, rfl⟩ := htrim
  intro item hitem
  simp only [List.mem_filter, List.mem_map, decide_eq_true_eq] at hitem
  obtain ⟨⟨s, hs, rfl⟩, hne⟩ := hitem
  exact Text.isSetItem_trimmed (hcommas s hs) hne

theorem isSetItem_of_holdsItems {candidate : Candidate} {items : List String}
    (hitems : candidate.HoldsItems items) : ∀ item ∈ items, Text.IsSetItem item := by
  unfold Candidate.HoldsItems at hitems
  split at hitems
  · rw [hitems]
    exact List.forall_mem_nil _
  · rw [← hitems]
    exact fun item => Text.isSetItem_of_mem_commaItems
  · obtain ⟨strings, -, htrim⟩ := hitems
    exact isSetItem_of_trimTo htrim
  · exact isSetItem_of_trimTo hitems
  · exact hitems.elim

/-- What is accepted is unset, or made of identifiers that were counted before they were
sorted. -/
theorem acceptIds_eq_ok {space : IdSpace} {maxItems : Option Nat} {candidate : Candidate}
    {value : Option (List (Snowflake space))}
    (hvalue : acceptIds maxItems candidate = .ok value) :
    value = none ∨ ∃ ids, checkCount maxItems ids.length = .ok () ∧ value = normalizeIds ids := by
  unfold acceptIds at hvalue
  split at hvalue
  · exact Or.inl (Except.ok.inj hvalue).symm
  · split at hvalue
    · contradiction
    · obtain ⟨⟨⟩, hcount, hids⟩ := exists_of_map_eq_ok hvalue
      exact Or.inr ⟨_, hcount, hids.symm⟩
  · obtain ⟨⟨⟩, hcount, hids⟩ := exists_of_map_eq_ok hvalue
    exact Or.inr ⟨_, hcount, hids.symm⟩
  · contradiction

theorem isNormal_acceptIds {space : IdSpace} {maxItems : Option Nat} {candidate : Candidate}
    {value : Option (List (Snowflake space))}
    (hvalue : acceptIds maxItems candidate = .ok value) :
    (idArray space maxItems).IsNormal value := by
  rintro kept rfl
  rcases acceptIds_eq_ok hvalue with hnone | ⟨ids, -, hids⟩
  · contradiction
  · exact normalizeIds_eq_some hids.symm

theorem isNormal_acceptStrings {empties : EmptyRule} {maxLength maxItems : Option Nat}
    {candidate : Candidate} {value : Option (List String)}
    (hvalue : acceptStrings empties maxLength maxItems candidate = .ok value) :
    (stringArray empties maxLength maxItems).IsNormal value := by
  change empties.normalize List.isEmpty value = value
  rcases acceptStrings_eq_ok_iff.1 hvalue with ⟨-, rfl⟩ | ⟨strings, -, -, -, rfl⟩
  · exact empties.normalize_none _
  · exact empties.normalize_normalize _ _

theorem isNormal_acceptTextSet {maxLength : Option Nat} {candidate : Candidate}
    {value : Option TextSet} (hvalue : acceptTextSet maxLength candidate = .ok value) :
    (stringSet maxLength).IsNormal value := by
  rintro set rfl
  obtain ⟨⟨items, hitems, hset⟩, -⟩ := acceptTextSet_eq_ok_iff.1 hvalue
  exact TextSet.isNormal_of_ofItems? (isSetItem_of_holdsItems hitems) hset

theorem isNormal_acceptObjects {maxItems : Option Nat} {candidate : Candidate}
    {value : Option (List WireObject)} (hvalue : acceptObjects maxItems candidate = .ok value) :
    (objectArray maxItems).IsNormal value := by
  rintro rfl
  rcases acceptObjects_eq_ok_iff.1 hvalue with ⟨-, hnone⟩ | ⟨objects, -, -, hobjects⟩
  · contradiction
  · exact (EmptyRule.ne_nil_of_normalize_unset hobjects).2 rfl

theorem isNormal_of_acceptItemNested {kind : NestedKind} {candidate : Candidate}
    {item : kind.Item} (hitem : acceptItemNested kind candidate = .ok item) :
    kind.IsNormal item := by
  obtain ⟨members, -, hvalid⟩ := acceptItemNested_eq_ok hitem
  exact NestedKind.isNormal_validate hvalid

/-- Candidates of which a codec looks at every part.  The objects of a prebuilt
list of nested objects are taken over as they are. -/
def Inspects : Codec → Candidate → Prop
  | .nestedArray _, .domain (.nested _ _) => False
  | _, _ => True

/-- A codec looks at every part of a candidate that is no prebuilt list of nested
objects. -/
theorem inspects_of_ne_nested (codec : Codec) {candidate : Candidate}
    (hbuilt : ∀ kind items, candidate ≠ .domain (.nested kind items)) :
    codec.Inspects candidate := by
  unfold Inspects
  split
  · exact hbuilt _ _ rfl
  · trivial

theorem isNormal_acceptNested {kind : NestedKind} {candidate : Candidate}
    {value : Option (List kind.Item)} (hinspects : (nestedArray kind).Inspects candidate)
    (hvalue : acceptNested kind candidate = .ok value) : (nestedArray kind).IsNormal value := by
  unfold acceptNested at hvalue
  split at hvalue
  · rw [← Except.ok.inj hvalue]
    exact ⟨nofun, nofun⟩
  · obtain ⟨items, hitems, rfl⟩ := exists_of_map_eq_ok hvalue
    refine ⟨fun hempty => (EmptyRule.ne_nil_of_normalize_unset hempty).2 rfl, ?_⟩
    intro kept hkept item hmem
    have hlist := (EmptyRule.ne_nil_of_normalize_unset hkept).1
    obtain ⟨candidate, -, hitem⟩ :=
      exists_item_of_acceptItems hitems item (Option.some.inj hlist ▸ hmem)
    exact isNormal_of_acceptItemNested hitem
  · exact hinspects.elim
  · contradiction

/-- Accepted values are normal, timestamps apart. -/
theorem isNormal_accept {codec : Codec} (hcodec : codec ≠ .timestamp) {candidate : Candidate}
    (hinspects : codec.Inspects candidate) {value : codec.Value}
    (hvalue : codec.accept candidate = .ok value) : codec.IsNormal value := by
  cases codec with
  | scalar codec =>
      exact ScalarCodec.isNormal_accept (fun heq => hcodec (congrArg Codec.scalar heq)) hvalue
  | idArray => exact isNormal_acceptIds hvalue
  | stringArray => exact isNormal_acceptStrings hvalue
  | stringSet => exact isNormal_acceptTextSet hvalue
  | objectArray => exact isNormal_acceptObjects hvalue
  | nestedArray => exact isNormal_acceptNested hinspects hvalue

end Codec

namespace Field

/-- What validation made of a candidate is read back from any object without the
attribute that it is put into, whether or not defaults are written. -/
theorem parse_put_of_validate (field : Field) (hcodec : field.codec ≠ .timestamp)
    {candidate : Candidate} (hinspects : field.codec.Inspects candidate)
    {value : field.codec.Value} (hvalid : field.validate candidate = .ok value)
    (withDefaults : Bool) {data : WireObject} (habsent : data.get? field.key = none) :
    field.parse (field.put value withDefaults data) = value := by
  have hnormal := Codec.isNormal_accept hcodec hinspects (accept_of_validate hvalid)
  exact field.parse_put (Codec.decode_encode hnormal) withDefaults habsent

/-- A set of texts, given with blanks, an empty item and a repeated one. -/
theorem parse_put_of_validate_keywordFilter :
    (Field.named "keyword_filter" (.stringSet none)).validate (.string " spam,ham ,, spam") =
        .ok (some ⟨["ham", "spam"], by decide⟩) ∧
      (Field.named "keyword_filter" (.stringSet none)).parse
          ((Field.named "keyword_filter" (.stringSet none)).put
            (some ⟨["ham", "spam"], by decide⟩) false [("name", .string "filter")]) =
        some ⟨["ham", "spam"], by decide⟩ := by
  have hvalid : (Field.named "keyword_filter" (.stringSet none)).validate
      (.string " spam,ham ,, spam") = .ok (some ⟨["ham", "spam"], by decide⟩) := rfl
  refine ⟨hvalid, parse_put_of_validate _ (by decide) ?_ hvalid false rfl⟩
  trivial

end Field

end AuditFields
