/-
Validating again.  A normal value within its bounds is accepted as it stands, from
its wire form and from its change value alike.  So what validation made of a
candidate, in whatever spelling that came, is not changed by being validated again.
-/
import AuditFields.Proofs.DeclaredBounds
import AuditFields.Proofs.NestedValidation

namespace AuditFields

@[simp] theorem unsigned64_toNat (n : UInt64) : unsigned64 n.toNat = .ok n := by
  have hlt := n.toNat_lt
  rw [unsigned64, if_pos (by omega), Int.toNat_natCast, UInt64.ofNat_toNat]

theorem Snowflake.map_unsigned64_value {space : IdSpace} (id : Snowflake space) :
    (unsigned64 id.value.toNat).map ofUInt64? = .ok (some id) := by
  rw [unsigned64_toNat]
  exact congrArg Except.ok id.ofUInt64?_value

/-- An identifier is accepted from its text, which is read with a sign. -/
theorem acceptSnowflake_text {space : IdSpace} (id : Snowflake space) :
    acceptSnowflake (.ofJson (.string id.text)) = .ok (some id) := by
  have hread : Text.readInt128 id.text.toList = .ok id.value.toNat :=
    Text.readInteger_of_readNatural (by decide) (Text.readUInt64_decimal id.value)
  simp only [Candidate.ofJson, acceptSnowflake, hread]
  exact id.map_unsigned64_value

namespace ScalarCodec

theorem acceptColor_natCast {n : Nat} {color : Color} (hcolor : Color.ofNat? n = some color) :
    acceptColor (.integer n) = .ok color := by
  simp only [acceptColor]
  rw [if_pos (Int.natCast_nonneg n), Int.toNat_natCast, hcolor]

theorem acceptFlags_toJson {kind : FlagKind} (flags : FlagSet kind) :
    acceptFlags kind (.ofJson flags.toJson) = .ok flags := by
  rw [FlagSet.toJson]
  split
  · rename_i htext
    simp only [Candidate.ofJson, acceptFlags, if_pos htext, Text.readUInt64_decimal,
      UInt64.ofNat_toNat]
  · change (unsigned64 flags.bits.toNat).map FlagSet.mk = .ok flags
    rw [unsigned64_toNat]
    rfl

/-- A value of an enumeration is accepted as its code is read. -/
theorem acceptEnum_ofUInt8 {kind : EnumKind} (code : UInt8) :
    acceptEnum kind (.ofJson (.ofUInt8 code)) = .ok (.ofCode code) := by
  have hlt := code.toNat_lt
  simp only [Json.ofUInt8, Json.ofInt, Candidate.ofJson, acceptEnum]
  rw [if_pos (by omega), Int.toNat_natCast, UInt8.ofNat_toNat]

/-- A normal value within its bounds is accepted from its wire form. -/
theorem accept_encode {codec : ScalarCodec} {value : codec.Value} (hvalue : codec.IsNormal value)
    (hwithin : codec.IsWithin value) :
    codec.accept (.ofJson (codec.encode value)) = .ok value := by
  cases codec with
  | bool => rfl
  | int => exact (@acceptInt_eq_ok_iff _ (.integer value.toInt) _).2 ⟨rfl, hwithin⟩
  | text => exact Bounds.map_check_eq_ok_iff.2 ⟨hwithin, rfl⟩
  | optionalText =>
      cases value with
      | none => rfl
      | some s =>
          have hne : s ≠ "" := fun heq => hvalue (congrArg some heq)
          exact (@acceptOptionalText_eq_ok_iff _ (.string s) _).2
            ⟨Or.inr ⟨s, rfl, (if_neg hne).symm⟩, hwithin⟩
  | color =>
      refine acceptColor_natCast ?_
      rw [Color.toNat_toUInt32, Color.ofNat?_toNat]
  | id =>
      cases value with
      | none => rfl
      | some id => exact acceptSnowflake_text id
  | flags => exact acceptFlags_toJson value
  | enum kind always =>
      have hcode : EnumValue.ofCode value.code = value := hvalue
      rw [accept, encode, acceptEnum_ofUInt8, hcode]
  | timestamp =>
      cases value with
      | none => rfl
      | some t =>
          have hread := Timestamp.ofText_text_eq_ok_self_iff.2 (hvalue t rfl)
          simp only [accept, encode, Option.elim_some, Candidate.ofJson, acceptTimestamp, hread]
  | imageHash =>
      cases value with
      | none => rfl
      | some hash =>
          simp only [accept, encode, Option.elim_some, Candidate.ofJson, acceptImageHash,
            ImageHash.ofText_text]
  | object =>
      cases value with
      | none => rfl
      | some members =>
          have hne : members ≠ [] := fun heq => hvalue (congrArg some heq)
          simp only [accept, encode, Option.elim_some, Candidate.ofJson, acceptObject, if_neg hne]

/-- It is accepted from its change value too. -/
theorem accept_toChange {codec : ScalarCodec} {value : codec.Value}
    (hvalue : codec.IsNormal value) (hwithin : codec.IsWithin value) {change : ChangeValue}
    (hchange : codec.toChange value = some change) :
    codec.accept (.domain change) = .ok value := by
  cases codec with
  | bool | color =>
      injection hchange with hchange
      rw [← hchange]
      rfl
  | int =>
      injection hchange with hchange
      rw [← hchange]
      exact (@acceptInt_eq_ok_iff _ (.domain (.integer value)) _).2 ⟨rfl, hwithin⟩
  | text =>
      injection hchange with hchange
      rw [← hchange]
      exact Bounds.map_check_eq_ok_iff.2 ⟨hwithin, rfl⟩
  | flags =>
      injection hchange with hchange
      rw [← hchange]
      exact dif_pos rfl
  | enum =>
      injection hchange with hchange
      rw [← hchange]
      exact (if_pos rfl).trans (congrArg Except.ok hvalue)
  | optionalText =>
      obtain ⟨s, rfl, rfl⟩ := Option.map_eq_some_iff.1 hchange
      have hne : s ≠ "" := fun heq => hvalue (congrArg some heq)
      exact (@acceptOptionalText_eq_ok_iff _ (.domain (.string s)) _).2
        ⟨Or.inr ⟨s, rfl, (if_neg hne).symm⟩, hwithin⟩
  | id | imageHash =>
      obtain ⟨kept, rfl, rfl⟩ := Option.map_eq_some_iff.1 hchange
      rfl
  | timestamp =>
      obtain ⟨t, rfl, rfl⟩ := Option.map_eq_some_iff.1 hchange
      exact if_pos (hvalue t rfl).1
  | object =>
      obtain ⟨members, rfl, rfl⟩ := Option.map_eq_some_iff.1 hchange
      have hne : members ≠ [] := fun heq => hvalue (congrArg some heq)
      exact congrArg Except.ok (if_neg hne)

end ScalarCodec

/-- With defaults every attribute has a member, which holds its wire form. -/
theorem Member.get?_putAll_withDefaults {attributes : List Member}
    (hkeys : (attributes.map (·.field.key)).Nodup) (data : WireObject) {member : Member}
    (hmem : member ∈ attributes) :
    (putAll attributes true data).get? member.field.key =
      some (member.field.codec.encode member.value) :=
  (get?_putAll hkeys true data hmem).trans (WireObject.get?_insert_self _ _ _)

namespace NestedKind

/-- A written object is valid just if the wire forms of its attributes are, apart from
the attribute that validation does not look at. -/
theorem exists_validate_toWire_iff {kind : NestedKind} {item : kind.Item} :
    (∃ valid, kind.validate (kind.toWire item true) = .ok valid) ↔
      ∀ member ∈ kind.attributes item, member.field ≠ ForumTag.moderatedField →
        ∃ value, member.field.codec.accept
          (.ofJson (member.field.codec.encode member.value)) = .ok value := by
  have hkeys : ((kind.attributes item).map (·.field.key)).Nodup :=
    kind.map_key_attributes item ▸ kind.keys_nodup
  have hcandidate : ∀ member ∈ kind.attributes item, ∀ absent,
      CheckedField.candidate ⟨member.field, absent⟩ (kind.toWire item true) =
        .ofJson (member.field.codec.encode member.value) := by
    intro member hmem absent
    rw [CheckedField.candidate, toWire_eq_putAll, Member.get?_putAll_withDefaults hkeys _ hmem,
      Option.elim_some]
  rw [exists_validate_iff]
  constructor
  · intro hvalid member hmem hne
    have hfield : member.field ∈ kind.fields :=
      kind.map_field_attributes item ▸ List.mem_map_of_mem hmem
    obtain ⟨⟨field, absent⟩, hchecked, rfl⟩ := exists_checkedField_iff.2 ⟨hfield, hne⟩
    obtain ⟨value, hvalue⟩ := hvalid _ hchecked
    rw [hcandidate member hmem] at hvalue
    exact ⟨value, ScalarField.accept_of_validate hvalue⟩
  · rintro haccept ⟨field, absent⟩ hchecked
    obtain ⟨hfield, hne⟩ := exists_checkedField_iff.1 ⟨_, hchecked, rfl⟩
    rw [← kind.map_field_attributes item] at hfield
    obtain ⟨member, hmem, rfl⟩ := List.mem_map.1 hfield
    obtain ⟨value, hvalue⟩ := haccept member hmem hne
    refine ⟨value, ?_⟩
    rw [hcandidate member hmem, ScalarField.validate, hvalue]

/-- A normal object within its bounds is valid in its wire form. -/
theorem validate_toWire {kind : NestedKind} {item : kind.Item} (hitem : kind.IsNormal item)
    (hwithin : kind.IsWithin item) : kind.validate (kind.toWire item true) = .ok item := by
  obtain ⟨valid, hvalid⟩ := exists_validate_toWire_iff.2 fun member hmem _ =>
    ⟨member.value, ScalarCodec.accept_encode (hitem member hmem) (hwithin member hmem)⟩
  rw [hvalid, ← ofWire_of_validate hvalid, ofWire_toWire hitem]

end NestedKind

namespace Codec

/-- Items that are accepted one by one are accepted together. -/
theorem acceptItems_map {α β : Type} {accept : Candidate → Except Rejection α}
    {make : β → Candidate} {keep : β → α} {items : List β}
    (hitems : ∀ item ∈ items, accept (make item) = .ok (keep item)) :
    acceptItems accept (items.map make) = .ok (items.map keep) := by
  rw [acceptItems_eq_ok_iff, List.forall₂_map_left_iff, List.forall₂_map_right_iff,
    List.forall₂_same]
  exact hitems

/-- Items that were written for values are accepted as these values. -/
theorem acceptItems_ofJson {α : Type} {accept : Candidate → Except Rejection α}
    {write : α → Json} {items : List α}
    (hitems : ∀ item ∈ items, accept (.ofJson (write item)) = .ok item) :
    acceptItems accept (Candidate.ofJsonItems (items.map write)) = .ok items := by
  rw [Candidate.ofJsonItems_eq_map, List.map_map]
  exact (acceptItems_map hitems).trans (congrArg Except.ok (List.map_id items))

/-- Items that fit a set are not changed when they are trimmed. -/
theorem trimTo_of_isSetItem {items : List String} (hitems : ∀ item ∈ items, Text.IsSetItem item) :
    Candidate.TrimTo items items := by
  refine ⟨fun item hitem => (hitems item hitem).no_comma, ?_⟩
  have htrim : items.map Text.trimmed = items := by
    rw [List.map_congr_left fun item hitem => (hitems item hitem).trimmed_eq, List.map_id']
  rw [htrim, List.filter_eq_self]
  exact fun item hitem => decide_eq_true (hitems item hitem).ne_empty

/-- Unset lists are mostly written as empty ones, which no upper limit refuses. -/
theorem contains_upTo_getD {α : Type} {limit : Option Nat} {value : Option (List α)}
    (hvalue : ∀ items, value = some items → (Bounds.upTo limit).contains items.length = true) :
    (Bounds.upTo limit).contains (value.getD []).length = true := by
  cases value with
  | none => cases limit <;> rfl
  | some items => exact hvalue items rfl

theorem normalize_getD {α : Type} {value : Option (List α)} (hvalue : value ≠ some []) :
    EmptyRule.unset.normalize List.isEmpty (some (value.getD [])) = value := by
  cases value with
  | none => rfl
  | some items =>
      exact EmptyRule.normalize_list_of_ne_nil _ fun hempty => hvalue (congrArg some hempty)

section Lists

variable {space : IdSpace} {empties : EmptyRule} {maxLength maxItems : Option Nat}
  {kind : NestedKind}

/-- The identifiers of a normal value are accepted as the value. -/
theorem acceptIds_finish {value : Option (List (Snowflake space))}
    (hvalue : (idArray space maxItems).IsNormal value)
    (hwithin : (idArray space maxItems).IsWithin value) :
    ((checkCount maxItems (value.getD []).length).map fun _ => normalizeIds (value.getD [])) =
      .ok value := by
  refine Bounds.map_check_eq_ok_iff.2 ⟨contains_upTo_getD hwithin, ?_⟩
  cases value with
  | none => rfl
  | some ids =>
      obtain ⟨hne, hids⟩ := hvalue ids rfl
      exact normalizeIds_of_pairwise hne hids

theorem acceptIds_encode {value : Option (List (Snowflake space))}
    (hvalue : (idArray space maxItems).IsNormal value)
    (hwithin : (idArray space maxItems).IsWithin value) :
    acceptIds maxItems (.ofJson ((idArray space maxItems).encode value)) = .ok value := by
  have hwritten : (idArray space maxItems).encode value =
      .array ((value.getD []).map fun id => .string id.text) := by
    cases value <;> rfl
  have hitems : acceptItems acceptSnowflake
      (Candidate.ofJsonItems ((value.getD []).map fun id => .string id.text)) =
        .ok ((value.getD []).map some) := by
    rw [Candidate.ofJsonItems_eq_map, List.map_map]
    exact acceptItems_map fun id _ => acceptSnowflake_text id
  have hset : ((value.getD []).map some).filterMap (fun id => id) = value.getD [] := by
    rw [List.filterMap_map]
    exact List.filterMap_some
  rw [hwritten]
  simp only [Candidate.ofJson, acceptIds, hitems, hset]
  exact acceptIds_finish hvalue hwithin

theorem acceptIds_toChange {ids : List (Snowflake space)}
    (hvalue : (idArray space maxItems).IsNormal (some ids))
    (hwithin : (idArray space maxItems).IsWithin (some ids)) :
    acceptIds maxItems (.domain (.ids (ids.map Snowflake.cast))) = .ok (some ids) := by
  have hcast : (ids.map (Snowflake.cast : _ → Snowflake .generic)).map Snowflake.cast = ids := by
    rw [List.map_map]
    exact List.map_id ids
  simp only [acceptIds, hcast]
  exact acceptIds_finish hvalue hwithin

/-- The texts of a normal value are accepted as the value, whether they were written or
were prebuilt. -/
theorem acceptStrings_some {strings : List String}
    (hvalue : (stringArray empties maxLength maxItems).IsNormal (some strings))
    (hwithin : (stringArray empties maxLength maxItems).IsWithin (some strings)) :
    acceptStrings empties maxLength maxItems (.array (strings.map .string)) =
        .ok (some strings) ∧
      acceptStrings empties maxLength maxItems (.domain (.strings strings)) =
        .ok (some strings) := by
  obtain ⟨hcount, hlength⟩ := hwithin strings rfl
  have haccepted (candidate : Candidate) (hlists : candidate.ListsTexts strings) :
      acceptStrings empties maxLength maxItems candidate = .ok (some strings) :=
    acceptStrings_eq_ok_iff.2 (Or.inr ⟨strings, hlists, hlength, hcount, hvalue⟩)
  exact ⟨haccepted _ (Candidate.areTexts_map_string.2 rfl), haccepted _ rfl⟩

theorem acceptStrings_encode {value : Option (List String)}
    (hvalue : (stringArray empties maxLength maxItems).IsNormal value)
    (hwithin : (stringArray empties maxLength maxItems).IsWithin value) :
    acceptStrings empties maxLength maxItems
      (.ofJson ((stringArray empties maxLength maxItems).encode value)) = .ok value := by
  cases value with
  | none =>
      cases empties with
      | keep => rfl
      | unset => cases maxItems <;> rfl
  | some strings =>
      have hwritten : Candidate.ofJson
          ((stringArray empties maxLength maxItems).encode (some strings)) =
            .array (strings.map .string) := by
        simp only [encode, Option.elim_some, Candidate.ofJson, Candidate.ofJsonItems_eq_map,
          List.map_map]
        rfl
      rw [hwritten]
      exact (acceptStrings_some hvalue hwithin).1

/-- The items of a normal set are accepted as the set, whether they were joined or are
those of a prebuilt set. -/
theorem acceptTextSet_some {set : TextSet} (hvalue : (stringSet maxLength).IsNormal (some set))
    (hwithin : (stringSet maxLength).IsWithin (some set)) :
    acceptTextSet maxLength (.string set.joined) = .ok (some set) ∧
      acceptTextSet maxLength (.domain (.stringSet set)) = .ok (some set) := by
  have hset : set.IsNormal := hvalue set rfl
  have haccepted (candidate : Candidate) (hitems : candidate.HoldsItems set.items) :
      acceptTextSet maxLength candidate = .ok (some set) :=
    acceptTextSet_eq_ok_iff.2 ⟨⟨set.items, hitems, TextSet.ofItems?_items hset.ne_nil⟩, hwithin⟩
  exact ⟨haccepted _ (TextSet.commaItems_joined hset),
    haccepted _ (trimTo_of_isSetItem hset.isSetItem)⟩

/-- The objects of a normal value are accepted as the value. -/
theorem acceptObjects_of_listsObjects (candidate : Candidate) {value : Option (List WireObject)}
    (hlists : candidate.ListsObjects (value.getD []))
    (hvalue : (objectArray maxItems).IsNormal value)
    (hwithin : (objectArray maxItems).IsWithin value) :
    acceptObjects maxItems candidate = .ok value :=
  acceptObjects_eq_ok_iff.2
    (Or.inr ⟨value.getD [], hlists, contains_upTo_getD hwithin, normalize_getD hvalue⟩)

theorem listsObjects_encode (maxItems : Option Nat) (value : Option (List WireObject)) :
    (Candidate.ofJson ((objectArray maxItems).encode value)).ListsObjects (value.getD []) := by
  rw [encode, Candidate.ofJson, Candidate.ofJsonItems_eq_map, List.map_map]
  exact List.forall₂_map_left_iff.2 (List.forall₂_same.2 fun _ _ => rfl)

theorem acceptItemNested_toWire {item : kind.Item} (hitem : kind.IsNormal item)
    (hwithin : kind.IsWithin item) :
    acceptItemNested kind (.ofJson (.object (kind.toWire item true))) = .ok item := by
  simp only [Candidate.ofJson, acceptItemNested, acceptItemObject,
    NestedKind.validate_toWire hitem hwithin]

theorem acceptNested_encode {value : Option (List kind.Item)}
    (hvalue : (nestedArray kind).IsNormal value) (hwithin : (nestedArray kind).IsWithin value) :
    acceptNested kind (.ofJson ((nestedArray kind).encode value)) = .ok value := by
  have hitems : acceptItems (acceptItemNested kind) (Candidate.ofJsonItems
      ((value.getD []).map fun item => .object (kind.toWire item true))) =
        .ok (value.getD []) := by
    apply acceptItems_ofJson
    intro item hmem
    cases value with
    | none => contradiction
    | some items =>
        exact acceptItemNested_toWire (hvalue.2 items rfl item hmem) (hwithin items rfl item hmem)
  simp only [encode, NestedKind.listToJson, Candidate.ofJson, acceptNested, hitems]
  exact congrArg Except.ok (normalize_getD hvalue.1)

end Lists

/-- A normal value within its bounds is accepted from its wire form. -/
theorem accept_encode {codec : Codec} {value : codec.Value} (hvalue : codec.IsNormal value)
    (hwithin : codec.IsWithin value) :
    codec.accept (.ofJson (codec.encode value)) = .ok value := by
  cases codec with
  | scalar => exact ScalarCodec.accept_encode hvalue hwithin
  | idArray => exact acceptIds_encode hvalue hwithin
  | stringArray => exact acceptStrings_encode hvalue hwithin
  | stringSet =>
      cases value with
      | none => rfl
      | some set => exact (acceptTextSet_some hvalue hwithin).1
  | objectArray maxItems =>
      exact acceptObjects_of_listsObjects _ (listsObjects_encode maxItems value) hvalue hwithin
  | nestedArray => exact acceptNested_encode hvalue hwithin

/-- It is accepted from its change value too. -/
theorem accept_toChange {codec : Codec} {value : codec.Value} (hvalue : codec.IsNormal value)
    (hwithin : codec.IsWithin value) {change : ChangeValue}
    (hchange : codec.toChange value = some change) :
    codec.accept (.domain change) = .ok value := by
  cases codec with
  | scalar => exact ScalarCodec.accept_toChange hvalue hwithin hchange
  | idArray =>
      obtain ⟨ids, rfl, rfl⟩ := Option.map_eq_some_iff.1 hchange
      exact acceptIds_toChange hvalue hwithin
  | stringArray =>
      obtain ⟨strings, rfl, rfl⟩ := Option.map_eq_some_iff.1 hchange
      exact (acceptStrings_some hvalue hwithin).2
  | stringSet =>
      obtain ⟨set, rfl, rfl⟩ := Option.map_eq_some_iff.1 hchange
      exact (acceptTextSet_some hvalue hwithin).2
  | objectArray =>
      obtain ⟨objects, rfl, rfl⟩ := Option.map_eq_some_iff.1 hchange
      exact acceptObjects_of_listsObjects (.domain (.objects objects)) rfl hvalue hwithin
  | nestedArray kind =>
      obtain ⟨items, rfl, rfl⟩ := Option.map_eq_some_iff.1 hchange
      exact (dif_pos rfl).trans (congrArg Except.ok (normalize_getD hvalue.1))

/-- Validation is idempotent.  Whatever a candidate was accepted as, is accepted again
from its wire form and from its change value, and as the same value. -/
theorem accept_idempotent {codec : Codec} (hcodec : codec ≠ .timestamp) {candidate : Candidate}
    (hinspects : codec.Inspects candidate) {value : codec.Value}
    (hvalue : codec.accept candidate = .ok value) :
    codec.accept (.ofJson (codec.encode value)) = .ok value ∧
      ∀ change, codec.toChange value = some change → codec.accept (.domain change) = .ok value := by
  have hnormal := isNormal_accept hcodec hinspects hvalue
  have hwithin := isWithin_accept hinspects hvalue
  exact ⟨accept_encode hnormal hwithin, fun _ hchange => accept_toChange hnormal hwithin hchange⟩

/-- Three spellings of two identifiers and an unset item, as many items as are allowed. -/
theorem accept_idempotent_ids :
    (idArray .role (some 4)).accept (.array [.string "+7", .integer 3, .null, .string "7"]) =
        .ok (some [⟨3, by decide⟩, ⟨7, by decide⟩]) ∧
      (idArray .role (some 4)).accept (.ofJson (.array [.string "3", .string "7"])) =
        .ok (some [⟨3, by decide⟩, ⟨7, by decide⟩]) ∧
      (idArray .role (some 4)).accept (.domain (.ids [⟨3, by decide⟩, ⟨7, by decide⟩])) =
        .ok (some [⟨3, by decide⟩, ⟨7, by decide⟩]) := by
  have hvalue : (idArray .role (some 4)).accept
      (.array [.string "+7", .integer 3, .null, .string "7"]) =
        .ok (some [⟨3, by decide⟩, ⟨7, by decide⟩]) := rfl
  obtain ⟨hwritten, hprebuilt⟩ := accept_idempotent (by decide) (by trivial) hvalue
  exact ⟨hvalue, hwritten, hprebuilt _ rfl⟩

end Codec

end AuditFields
