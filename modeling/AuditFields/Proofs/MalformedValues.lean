/-
Malformed wire values.  A single value that its codec does not recognise counts as absent.
An array is read item by item, and an item is recognised as a single value would be, so
that one which is not recognised counts as left out.  Either way a malformed value costs
nothing but itself.
-/
import AuditFields.Proofs.HeldValues
import AuditFields.Proofs.ItemKinds

namespace AuditFields

namespace Codec

/-- The codec of an item as a single value. -/
@[reducible] def itemCodec : Codec → ScalarCodec
  | .scalar codec => codec
  | .idArray space _ => .id space
  | .stringArray _ _ _ | .stringSet _ => .text "" .unbounded false
  | .objectArray _ | .nestedArray _ => .object

/-- The value that the values of items make together.  A codec of single values has no
items. -/
def ofItems : (codec : Codec) → List codec.itemCodec.Value → codec.Value
  | .scalar codec, _ => codec.decode none
  | .idArray _ _, values => normalizeIds (values.filterMap fun id => id)
  | .stringArray empties _ _, values => empties.normalize List.isEmpty (some values)
  | .stringSet _, values => TextSet.ofItems? values
  | .objectArray _, values =>
      EmptyRule.unset.normalize List.isEmpty (some (values.map fun object => object.getD []))
  | .nestedArray kind, values =>
      EmptyRule.unset.normalize List.isEmpty
        (some ((values.map fun object => object.getD []).map kind.ofWire))

/-- The items of an array that are recognised, in their order. -/
def recognised (codec : Codec) (items : List Json) : List Json :=
  items.filter fun item => codec.matchesWire (.array [item])

/-- An array is recognised if its items are, each on its own. -/
theorem matchesWire_array {codec : Codec} (harray : codec.TakesArrays) (items : List Json) :
    codec.matchesWire (.array items) = items.all codec.itemCodec.matchesWire := by
  cases codec with
  | scalar => exact harray.elim
  | idArray | stringArray | stringSet | objectArray | nestedArray => rfl

theorem matchesWire_singleton {codec : Codec} (harray : codec.TakesArrays) (item : Json) :
    codec.matchesWire (.array [item]) = codec.itemCodec.matchesWire item := by
  rw [matchesWire_array harray, List.all_cons, List.all_nil, Bool.and_true]

theorem matchesWire_array_iff {codec : Codec} (harray : codec.TakesArrays) {items : List Json} :
    codec.matchesWire (.array items) = true ↔
      ∀ item ∈ items, codec.matchesWire (.array [item]) = true := by
  simp only [matchesWire_singleton harray]
  rw [matchesWire_array harray, List.all_eq_true]

theorem recognised_eq {codec : Codec} (harray : codec.TakesArrays) (items : List Json) :
    codec.recognised items = items.filter codec.itemCodec.matchesWire := by
  simp only [recognised, matchesWire_singleton harray]

theorem recognised_recognised (codec : Codec) (items : List Json) :
    codec.recognised (codec.recognised items) = codec.recognised items := by
  simp only [recognised, List.filter_filter, Bool.and_self]

/-- If an item that holds a value is read as what is kept of the value, and any other item
is not read, then what is read from an array is kept of the values of its items. -/
theorem filterMap_eq_of_holds {codec : ScalarCodec} {α : Type} {read? : Json → Option α}
    {keep : codec.Value → Option α}
    (hholds : ∀ item value, codec.Holds item value → read? item = keep value)
    (hother : ∀ item, codec.matchesWire item = false → read? item = none) (items : List Json) :
    items.filterMap read? =
      ((items.filter codec.matchesWire).map fun item => codec.decode (some item)).filterMap
        keep := by
  rw [List.filterMap_map, List.filterMap_filter]
  apply List.filterMap_congr
  intro item _
  cases hitem : codec.matchesWire item with
  | true =>
      obtain ⟨value, hvalue⟩ := ScalarCodec.matchesWire_iff.1 hitem
      rw [hholds item value hvalue, if_pos rfl, Function.comp_apply,
        ScalarCodec.decode_of_holds hvalue]
  | false => rw [hother item hitem, if_neg Bool.false_ne_true]

theorem filterMap_itemId?_eq {space : IdSpace} (items : List Json) :
    items.filterMap itemId? =
      ((items.filter (ScalarCodec.id space).matchesWire).map fun item =>
        (ScalarCodec.id space).decode (some item)).filterMap fun id => id := by
  refine @filterMap_eq_of_holds (.id space) _ _ _ ?_ ?_ items
  · intro item value hvalue
    rw [itemId?, Json.asUInt64?_eq_some_iff.2 hvalue, Option.bind_some]
    exact Snowflake.ofUInt64?_eq_iff.2 rfl
  · intro item hitem
    exact ScalarCodec.decode_of_matchesWire_eq_false hitem

theorem filterMap_asString?_eq (items : List Json) :
    items.filterMap Json.asString? =
      (items.filter (ScalarCodec.text "" .unbounded false).matchesWire).map fun item =>
        (ScalarCodec.text "" .unbounded false).decode (some item) := by
  refine (@filterMap_eq_of_holds (.text "" .unbounded false) _ _ some ?_ ?_ items).trans
    List.filterMap_some
  · exact fun item value => Json.asString?_eq_some_iff.2
  · exact fun item hitem => Option.isNone_iff_eq_none.1 (Option.isSome_eq_false_iff.1 hitem)

theorem filterMap_asObject?_eq (items : List Json) :
    items.filterMap Json.asObject? =
      ((items.filter ScalarCodec.object.matchesWire).map fun item =>
        ScalarCodec.object.decode (some item)).map fun object => object.getD [] := by
  rw [← List.filterMap_eq_map]
  refine @filterMap_eq_of_holds .object _ _ _ ?_ ?_ items
  · exact fun item value hvalue => Json.asObject?_eq_some_iff.2 hvalue.1
  · exact fun item hitem => Option.isNone_iff_eq_none.1 (Option.isSome_eq_false_iff.1 hitem)

/-- What is read from an array is made of what its recognised items are read as, each on
its own. -/
theorem decode_array {codec : Codec} (harray : codec.TakesArrays) (items : List Json) :
    codec.decode (some (.array items)) =
      codec.ofItems ((codec.recognised items).map fun item =>
        codec.itemCodec.decode (some item)) := by
  rw [recognised_eq harray]
  -- a codec makes the same of the items on either side, so that only the items are compared
  cases codec with
  | scalar => exact harray.elim
  | idArray => exact congrArg normalizeIds (filterMap_itemId?_eq items)
  | stringArray empties =>
      exact congrArg (fun strings => empties.normalize List.isEmpty (some strings))
        (filterMap_asString?_eq items)
  | stringSet => exact congrArg TextSet.ofItems? (filterMap_asString?_eq items)
  | objectArray =>
      exact congrArg (fun objects => EmptyRule.unset.normalize List.isEmpty (some objects))
        (filterMap_asObject?_eq items)
  | nestedArray kind =>
      exact congrArg
        (fun objects => EmptyRule.unset.normalize List.isEmpty (some (objects.map kind.ofWire)))
        (filterMap_asObject?_eq items)

/-- Items that are not recognised may be left out. -/
theorem decode_recognised {codec : Codec} (harray : codec.TakesArrays) (items : List Json) :
    codec.decode (some (.array (codec.recognised items))) =
      codec.decode (some (.array items)) := by
  rw [decode_array harray, decode_array harray, recognised_recognised]

/-- A value that is not an array is no list.  A set of texts may be one text. -/
theorem decode_of_asArray?_eq_none {codec : Codec} (harray : codec.TakesArrays)
    (hset : codec.domain ≠ .stringSet) {raw : Json} (hraw : raw.asArray? = none) :
    codec.decode (some raw) = codec.decode none := by
  cases codec with
  | scalar => exact harray.elim
  | stringSet => exact absurd rfl hset
  | idArray | stringArray | objectArray | nestedArray =>
      simp only [decode, Option.bind_some, hraw, Option.bind_none]

/-- What a codec that takes arrays makes of any of them.  It recognises the array if it
recognises every item, which is to say that the item holds a single value.  It reads the
array as if the other items were not there, and makes its value of what the recognised
ones are read as.  Where there is no array there is no list, though a text may be a set. -/
structure ReadsItemwise (codec : Codec) : Prop where
  decode_of_not_array : codec.domain ≠ .stringSet → ∀ raw : Json, raw.asArray? = none →
    codec.decode (some raw) = codec.decode none
  matchesWire_item_iff : ∀ item,
    codec.matchesWire (.array [item]) = true ↔ ∃ value, codec.itemCodec.Holds item value
  matchesWire_array_iff : ∀ items, codec.matchesWire (.array items) = true ↔
    ∀ item ∈ items, codec.matchesWire (.array [item]) = true
  decode_recognised : ∀ items, codec.decode (some (.array items)) =
    codec.decode (some (.array (codec.recognised items)))
  decode_array : ∀ items, codec.decode (some (.array items)) =
    codec.ofItems ((codec.recognised items).map fun item => codec.itemCodec.decode (some item))

/-- Malformed values cost only themselves.  A codec of single values recognises just the
wire values that hold a value of it, reads that value, and reads null and all others as if
they were absent.  A codec that takes arrays recognises them item by item, and reads an
array as if the items that it does not recognise were left out. -/
theorem malformed_costs_only_itself :
    (∀ codec : ScalarCodec, codec.ReadsHeld) ∧
      ∀ codec : Codec, codec.TakesArrays → codec.ReadsItemwise := by
  constructor
  · intro codec
    refine ⟨fun _ => ScalarCodec.matchesWire_iff, fun _ _ => ScalarCodec.decode_of_holds, ?_⟩
    rintro raw (rfl | hraw)
    · exact ScalarCodec.decode_of_matchesWire_eq_false (Codec.scalar codec).matchesWire_null
    · exact ScalarCodec.decode_of_matchesWire_eq_false hraw
  · intro codec harray
    refine ⟨fun hset _ => decode_of_asArray?_eq_none harray hset, ?_, ?_, ?_, ?_⟩
    · intro item
      rw [matchesWire_singleton harray, ScalarCodec.matchesWire_iff]
    · exact fun _ => matchesWire_array_iff harray
    · exact fun items => (decode_recognised harray items).symm
    · exact decode_array harray

/-- Text is no number, however it reads, and two of four items are no identifiers. -/
theorem malformed_costs_only_itself_items :
    (ScalarCodec.int 7 .unbounded).matchesWire (.string "5") = false ∧
      (ScalarCodec.int 7 .unbounded).decode (some (.string "5")) = (7 : Int64) ∧
      (idArray .user none).TakesArrays ∧
      (idArray .user none).matchesWire
          (.array [.string "3", .null, .string "-1", .string "+1"]) = false ∧
      (idArray .user none).decode
          (some (.array [.string "3", .null, .string "-1", .string "+1"])) =
        (idArray .user none).decode (some (.array [.string "3", .string "+1"])) ∧
      (idArray .user none).decode (some (.array [.string "3", .string "+1"])) =
        some [⟨1, by decide⟩, ⟨3, by decide⟩] := by
  obtain ⟨hsingle, harrays⟩ := malformed_costs_only_itself
  have htext : (ScalarCodec.int 7 .unbounded).matchesWire (.string "5") = false := rfl
  refine ⟨htext, (hsingle _).decode_malformed _ (Or.inr htext), trivial, by decide, ?_, rfl⟩
  exact (harrays (idArray .user none) trivial).decode_recognised _

end Codec

end AuditFields
