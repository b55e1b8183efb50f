/-
Sets of texts read back.  A set is written as one text, and a text is read by splitting
it at commas, trimming the pieces and dropping the empty ones.  The texts of an array
are read as they are, so what came as an array is read back only if its texts need
none of that.
-/
import AuditFields.Proofs.CodecReadback

namespace AuditFields

namespace TextSet

/-- The texts that a wire value has for a set: the items of a text, or the texts of an
array. -/
def wireItems : Json → List String
  | .string s => Text.commaItems s
  | .array items => items.filterMap Json.asString?
  | _ => []

theorem mem_wireItems_array {items : List Json} {s : String} :
    s ∈ wireItems (.array items) ↔ .string s ∈ items := by
  simp only [wireItems, List.mem_filterMap]
  constructor
  · rintro ⟨item, hitem, hs⟩
    cases item with
    | string t => exact Option.some.inj hs ▸ hitem
    | null | bool | number | array | object => contradiction
  · intro hs
    exact ⟨.string s, hs, rfl⟩

/-- Only the texts of an array may be unfit for a set. -/
theorem isSetItem_wireItems_iff {raw : Json} :
    (∀ item ∈ wireItems raw, Text.IsSetItem item) ↔
      ∀ items, raw = .array items → ∀ s, .string s ∈ items → Text.IsSetItem s := by
  cases raw with
  | string s =>
      refine iff_of_true ?_ nofun
      exact fun item => Text.isSetItem_of_mem_commaItems
  | array items =>
      simp only [mem_wireItems_array, Json.array.injEq, forall_eq']
  | null | bool | number | object => exact iff_of_true (List.forall_mem_nil _) nofun

/-- There is a set of any item at all. -/
theorem exists_ofItems? {item : String} {items : List String} (hitem : item ∈ items) :
    ∃ set, ofItems? items = some set := by
  have hne : (ofList items).items ≠ [] := List.ne_nil_of_mem ((mem_ofList items).2 hitem)
  exact ⟨ofList items, (EmptyRule.normalize_eq_some_iff _ _ _ _).2
    ⟨rfl, fun _ => List.isEmpty_eq_false_iff.2 hne⟩⟩

/-- The set of some items is normal just if its items fit a set. -/
theorem isNormal_ofItems?_iff {items : List String} :
    (∀ set, ofItems? items = some set → set.IsNormal) ↔ ∀ item ∈ items, Text.IsSetItem item := by
  constructor
  · intro hnormal item hitem
    obtain ⟨set, hset⟩ := exists_ofItems? hitem
    exact (hnormal set hset).isSetItem item (((mem_of_ofItems? hset).2 item).2 hitem)
  · exact fun hitems _ => isNormal_of_ofItems? hitems

end TextSet

namespace Codec

section TextSets

variable (maxLength : Option Nat)

theorem decode_stringSet (raw : Option Json) :
    (stringSet maxLength).decode raw =
      raw.bind fun json => TextSet.ofItems? (TextSet.wireItems json) := by
  cases raw with
  | none => rfl
  | some json => cases json <;> rfl

/-- What is read back of a set are its items, each of them split at its commas. -/
theorem decode_encode_stringSet (value : Option TextSet) :
    (stringSet maxLength).decode (some ((stringSet maxLength).encode value)) =
      value.bind fun set => TextSet.ofItems? (set.items.flatMap Text.commaItems) := by
  cases value with
  | none => rfl
  | some set => exact congrArg TextSet.ofItems? (Text.commaItems_intercalate set.items)

theorem isNormal_decode_stringSet_iff {raw : Option Json} :
    (stringSet maxLength).IsNormal ((stringSet maxLength).decode raw) ↔
      ∀ items, raw = some (.array items) → ∀ s, .string s ∈ items → Text.IsSetItem s := by
  rw [decode_stringSet]
  cases raw with
  | none => exact iff_of_true nofun nofun
  | some json =>
      simp only [IsNormal, Option.bind_some, Option.some.injEq]
      exact TextSet.isNormal_ofItems?_iff.trans TextSet.isSetItem_wireItems_iff

/-- A set that was read is read back, and all its items are trimmed, free of commas and
not empty, exactly when it did not come as an array with other texts.  In any case its
items, each split at its commas, are read back. -/
theorem stringSet_readback_iff (raw : Option Json) :
    ((stringSet maxLength).decode
        (some ((stringSet maxLength).encode ((stringSet maxLength).decode raw))) =
          (stringSet maxLength).decode raw ↔
      ∀ items, raw = some (.array items) → ∀ s, .string s ∈ items → Text.IsSetItem s) ∧
    ((∀ set, (stringSet maxLength).decode raw = some set →
        ∀ item ∈ set.items, Text.IsSetItem item) ↔
      ∀ items, raw = some (.array items) → ∀ s, .string s ∈ items → Text.IsSetItem s) ∧
    (stringSet maxLength).decode
        (some ((stringSet maxLength).encode ((stringSet maxLength).decode raw))) =
      ((stringSet maxLength).decode raw).bind fun set =>
        TextSet.ofItems? (set.items.flatMap Text.commaItems) := by
  have hne : ∀ set, (stringSet maxLength).decode raw = some set → set.items ≠ [] := by
    intro set hset
    rw [decode_stringSet] at hset
    obtain ⟨json, -, hset⟩ := Option.bind_eq_some_iff.1 hset
    exact (TextSet.mem_of_ofItems? hset).1
  refine ⟨?_, ?_, decode_encode_stringSet maxLength _⟩
  · exact decode_encode_iff.trans (isNormal_decode_stringSet_iff maxLength)
  · rw [← isNormal_decode_stringSet_iff maxLength]
    constructor
    · exact fun hitems set hset => ⟨hne set hset, hitems set hset⟩
    · exact fun hnormal set hset => (hnormal set hset).isSetItem

/-- The set of an array with an empty text has this text for its item.  It is written as
the empty text, which stands for no set. -/
theorem stringSet_lost_empty_text :
    (stringSet none).decode (some (.array [.string ""])) = some (TextSet.ofList [""]) ∧
      (stringSet none).decode (some ((stringSet none).encode
        ((stringSet none).decode (some (.array [.string ""]))))) = none ∧
      "" ∈ (TextSet.ofList [""]).items ∧ ¬ Text.IsSetItem "" := by
  refine ⟨rfl, rfl, List.mem_singleton_self "", ?_⟩
  intro hitem
  exact hitem.ne_empty rfl

end TextSets

end Codec

end AuditFields
