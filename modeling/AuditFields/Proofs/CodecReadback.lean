/-
Reading back what a codec wrote.  A value that is normal for a codec, and that
shows up as a change value, has one wire form, which the codec recognises and
reads as the same value.
-/
import AuditFields.Audit.Entry
import AuditFields.Entity.Conversation
import AuditFields.Proofs.NestedValues

namespace AuditFields

namespace Snowflake

variable {space : IdSpace}

theorem lt_trans {a b c : Snowflake space} (hab : a < b) (hbc : b < c) : a < c :=
  UInt64.lt_trans hab hbc

theorem lt_of_not_lt {a b : Snowflake space} (hab : ¬ a < b) (hne : a ≠ b) : b < a := by
  obtain ⟨x, hx⟩ := a
  obtain ⟨y, hy⟩ := b
  have hxy : y ≠ x := fun heq => hne (by simp only [heq])
  exact UInt64.lt_of_le_of_ne (UInt64.not_lt.1 hab) hxy

theorem pairwise_ofList (ids : List (Snowflake space)) :
    (Ascending.ofList ids).Pairwise (· < ·) :=
  Ascending.pairwise_ofList (fun _ _ _ => lt_trans) (fun _ _ => lt_of_not_lt) ids

end Snowflake

namespace TextSet

/-- Sets that have a wire form of their own: trimmed items without commas, and
at least one of them. -/
structure IsNormal (set : TextSet) : Prop where
  ne_nil : set.items ≠ []
  isSetItem : ∀ item ∈ set.items, Text.IsSetItem item

theorem ofItems?_items {set : TextSet} (hset : set.items ≠ []) : ofItems? set.items = some set := by
  obtain ⟨items, hascending⟩ := set
  have hlist : ofList items = ⟨items, hascending⟩ := by
    simp only [ofList, Ascending.ofList_of_pairwise hascending]
  rw [ofItems?, hlist, EmptyRule.normalize_eq_some_iff]
  exact ⟨rfl, fun _ => by simpa using hset⟩

/-- A set of items has just these items, and there is none of no items. -/
theorem mem_of_ofItems? {items : List String} {set : TextSet} (hset : ofItems? items = some set) :
    set.items ≠ [] ∧ ∀ item, item ∈ set.items ↔ item ∈ items := by
  rw [ofItems?, EmptyRule.normalize_eq_some_iff, Option.some.injEq] at hset
  obtain ⟨rfl, hempty⟩ := hset
  exact ⟨by simpa using hempty rfl, fun item => mem_ofList items⟩

theorem isNormal_of_ofItems? {items : List String} {set : TextSet}
    (hitems : ∀ item ∈ items, Text.IsSetItem item) (hset : ofItems? items = some set) :
    set.IsNormal := by
  obtain ⟨hne, hmem⟩ := mem_of_ofItems? hset
  exact ⟨hne, fun item hitem => hitems item ((hmem item).1 hitem)⟩

/-- The text of a normal set has its items. -/
theorem commaItems_joined {set : TextSet} (hset : set.IsNormal) :
    Text.commaItems set.joined = set.items :=
  Text.commaItems_intercalate_of_isSetItem hset.isSetItem

end TextSet

namespace Codec

theorem normalizeIds_of_pairwise {space : IdSpace} {ids : List (Snowflake space)}
    (hne : ids ≠ []) (hids : ids.Pairwise (· < ·)) : normalizeIds ids = some ids := by
  rw [normalizeIds, Ascending.ofList_of_pairwise hids, EmptyRule.normalize_list_of_ne_nil _ hne]

theorem normalizeIds_eq_some {space : IdSpace} {ids kept : List (Snowflake space)}
    (hkept : normalizeIds ids = some kept) : kept ≠ [] ∧ kept.Pairwise (· < ·) := by
  obtain ⟨hlist, hne⟩ := EmptyRule.ne_nil_of_normalize_unset hkept
  rw [Option.some.injEq] at hlist
  exact ⟨hne, hlist ▸ Snowflake.pairwise_ofList ids⟩

/-- Values that have a wire form of their own. -/
def IsNormal : (codec : Codec) → codec.Value → Prop
  | .scalar codec, value => codec.IsNormal value
  | .idArray _ _, value => ∀ ids, value = some ids → ids ≠ [] ∧ ids.Pairwise (· < ·)
  | .stringArray empties _ _, value => empties.normalize List.isEmpty value = value
  | .stringSet _, value => ∀ set, value = some set → set.IsNormal
  | .objectArray _, value => value ≠ some []
  | .nestedArray kind, value => value ≠ some [] ∧ ∀ items, value = some items →
      ∀ item ∈ items, kind.IsNormal item

theorem filterMap_asObject?_map (objects : List WireObject) :
    (objects.map Json.object).filterMap Json.asObject? = objects := by
  rw [List.filterMap_map]
  exact List.filterMap_some

theorem filterMap_asString?_map (strings : List String) :
    (strings.map Json.string).filterMap Json.asString? = strings := by
  rw [List.filterMap_map]
  exact List.filterMap_some

theorem filterMap_itemId?_map {space : IdSpace} (ids : List (Snowflake space)) :
    (ids.map fun id => Json.string id.text).filterMap itemId? = ids := by
  have hitem : (itemId? ∘ fun id : Snowflake space => Json.string id.text) = some := by
    funext id
    simp [itemId?]
  rw [List.filterMap_map, hitem, List.filterMap_some]

theorem map_ofWire_toWire {kind : NestedKind} {items : List kind.Item}
    (hitems : ∀ item ∈ items, kind.IsNormal item) :
    ((items.map fun item => Json.object (kind.toWire item true)).filterMap
      Json.asObject?).map kind.ofWire = items := by
  have hobjects : (items.map fun item => Json.object (kind.toWire item true)) =
      (items.map (kind.toWire · true)).map Json.object := List.map_map.symm
  rw [hobjects, filterMap_asObject?_map, List.map_map]
  refine (List.map_congr_left fun item hitem => ?_).trans (List.map_id items)
  exact NestedKind.ofWire_toWire (hitems item hitem) true

/-- A normal value is read back from its wire form. -/
theorem decode_encode {codec : Codec} {value : codec.Value} (hvalue : codec.IsNormal value) :
    codec.decode (some (codec.encode value)) = value := by
  cases codec with
  | scalar codec => exact ScalarCodec.decode_encode hvalue
  | idArray =>
      cases value with
      | none => rfl
      | some ids =>
          obtain ⟨hne, hids⟩ := hvalue ids rfl
          simp only [decode, encode, Option.elim_some, Option.bind_some, Json.asArray?,
            filterMap_itemId?_map, normalizeIds_of_pairwise hne hids]
  | stringArray empties =>
      cases value with
      | none => cases empties <;> rfl
      | some strings =>
          simp only [decode, encode, Option.elim_some, Option.bind_some, Json.asArray?,
            filterMap_asString?_map]
          exact hvalue
  | stringSet =>
      cases value with
      | none => rfl
      | some set =>
          have hset : set.IsNormal := hvalue set rfl
          simp only [decode, encode, Option.elim_some, Option.bind_some, decodeTextSet,
            TextSet.commaItems_joined hset, TextSet.ofItems?_items hset.ne_nil]
  | objectArray =>
      cases value with
      | none => rfl
      | some objects =>
          have hne : objects ≠ [] := fun heq => hvalue (congrArg some heq)
          simp only [decode, encode, Option.getD_some, Option.bind_some, Json.asArray?,
            filterMap_asObject?_map, EmptyRule.normalize_list_of_ne_nil _ hne]
  | nestedArray kind =>
      cases value with
      | none => rfl
      | some items =>
          have hne : items ≠ [] := fun heq => hvalue.1 (congrArg some heq)
          simp only [decode, encode, Option.getD_some, Option.bind_some, Json.asArray?,
            NestedKind.listToJson, map_ofWire_toWire (hvalue.2 items rfl),
            EmptyRule.normalize_list_of_ne_nil _ hne]

/-- Whatever is on the wire, what is read is normal, timestamps and sets apart. -/
theorem isNormal_decode {codec : Codec} (htimestamp : codec.domain ≠ .timestamp)
    (hset : codec.domain ≠ .stringSet) (raw : Option Json) :
    codec.IsNormal (codec.decode raw) := by
  cases codec with
  | scalar codec =>
      refine ScalarCodec.isNormal_decode (fun heq => ?_) raw
      exact htimestamp (by rw [heq]; rfl)
  | idArray =>
      intro ids hids
      obtain ⟨items, -, hitems⟩ := Option.bind_eq_some_iff.1 hids
      exact normalizeIds_eq_some hitems
  | stringArray empties =>
      simp only [IsNormal, decode]
      cases raw.bind Json.asArray? with
      | none => exact empties.normalize_none _
      | some items => exact empties.normalize_normalize _ _
  | stringSet => exact absurd rfl hset
  | objectArray =>
      intro hempty
      obtain ⟨items, -, hitems⟩ := Option.bind_eq_some_iff.1 hempty
      exact (EmptyRule.ne_nil_of_normalize_unset hitems).2 rfl
  | nestedArray kind =>
      simp only [IsNormal, decode]
      refine ⟨fun hempty => ?_, fun kept hkept => ?_⟩
      · obtain ⟨items, -, hitems⟩ := Option.bind_eq_some_iff.1 hempty
        exact (EmptyRule.ne_nil_of_normalize_unset hitems).2 rfl
      · obtain ⟨items, -, hitems⟩ := Option.bind_eq_some_iff.1 hkept
        have hlist := (EmptyRule.ne_nil_of_normalize_unset hitems).1
        rw [Option.some.injEq] at hlist
        rw [← hlist, List.forall_mem_map]
        exact fun data _ => kind.isNormal_ofWire data

/-- Just the normal values are read back. -/
theorem decode_encode_iff {codec : Codec} {value : codec.Value} :
    codec.decode (some (codec.encode value)) = value ↔ codec.IsNormal value := by
  refine ⟨fun hread => ?_, decode_encode⟩
  cases codec with
  | scalar codec => exact ScalarCodec.decode_encode_iff.1 hread
  | stringSet maxLength =>
      rintro set rfl
      exact TextSet.isNormal_of_ofItems? (fun _ => Text.isSetItem_of_mem_commaItems) hread
  | idArray | stringArray | objectArray | nestedArray =>
      exact hread ▸ isNormal_decode (by nofun) (by nofun) _

theorem domain_eq_timestamp_iff {codec : Codec} :
    codec.domain = .timestamp ↔ codec = .timestamp := by
  constructor
  · intro hdomain
    cases codec with
    | scalar codec =>
        cases codec with
        | timestamp => rfl
        | bool | int | text | optionalText | color | id | flags | enum | imageHash | object =>
            contradiction
    | idArray | stringArray | stringSet | objectArray | nestedArray => contradiction
  · rintro rfl
    rfl

theorem domain_eq_stringSet_iff {codec : Codec} :
    codec.domain = .stringSet ↔ ∃ maxLength, codec = .stringSet maxLength := by
  constructor
  · intro hdomain
    cases codec with
    | scalar codec => cases codec <;> contradiction
    | stringSet maxLength => exact ⟨maxLength, rfl⟩
    | idArray | stringArray | objectArray | nestedArray => contradiction
  · rintro ⟨maxLength, rfl⟩
    rfl

end Codec

namespace ScalarCodec

/-- The change value of a value travels as the value does. -/
theorem toWire_of_toChange {codec : ScalarCodec} {value : codec.Value} {change : ChangeValue}
    (hchange : codec.toChange value = some change) : change.toWire = codec.encode value := by
  cases codec with
  | bool | int | text | color | enum =>
      injection hchange with hchange
      rw [← hchange]
      rfl
  | flags kind =>
      injection hchange with hchange
      rw [← hchange]
      -- a change tells the kinds apart by name, a codec by how they travel
      cases kind <;> rfl
  | optionalText | id | timestamp | imageHash | object =>
      obtain ⟨kept, rfl, rfl⟩ := Option.map_eq_some_iff.1 hchange
      rfl

/-- The wire form of a value that shows up in a change is recognised. -/
theorem matchesWire_encode {codec : ScalarCodec} {value : codec.Value} {change : ChangeValue}
    (hvalue : codec.IsNormal value) (hchange : codec.toChange value = some change) :
    codec.matchesWire (codec.encode value) = true := by
  cases codec with
  | bool | text => rfl
  | int | color | flags | enum => simp [matchesWire, encode]
  | optionalText | object =>
      obtain ⟨kept, rfl, rfl⟩ := Option.map_eq_some_iff.1 hchange
      rfl
  | id | imageHash =>
      obtain ⟨kept, rfl, rfl⟩ := Option.map_eq_some_iff.1 hchange
      simp [matchesWire, encode]
  | timestamp =>
      obtain ⟨t, rfl, rfl⟩ := Option.map_eq_some_iff.1 hchange
      have hread := decode_encode hvalue
      rw [decode, Option.bind_some] at hread
      rw [matchesWire, hread, Option.isSome_some]

end ScalarCodec

namespace Codec

theorem matchesWire_null (codec : Codec) : codec.matchesWire .null = false := by
  cases codec with
  | scalar codec => cases codec <;> rfl
  | idArray | stringArray | stringSet | objectArray | nestedArray => rfl

theorem toWire_of_toChange {codec : Codec} {value : codec.Value} {change : ChangeValue}
    (hchange : codec.toChange value = some change) : change.toWire = codec.encode value := by
  cases codec with
  | scalar codec => exact ScalarCodec.toWire_of_toChange hchange
  | idArray =>
      obtain ⟨ids, rfl, rfl⟩ := Option.map_eq_some_iff.1 hchange
      change Json.array ((ids.map Snowflake.cast).map fun id => .string id.text) =
        Json.array (ids.map fun id => .string id.text)
      rw [List.map_map]
      rfl
  | stringArray | stringSet | objectArray | nestedArray =>
      obtain ⟨kept, rfl, rfl⟩ := Option.map_eq_some_iff.1 hchange
      rfl

theorem matchesWire_encode {codec : Codec} {value : codec.Value} {change : ChangeValue}
    (hvalue : codec.IsNormal value) (hchange : codec.toChange value = some change) :
    codec.matchesWire (codec.encode value) = true := by
  cases codec with
  | scalar codec => exact ScalarCodec.matchesWire_encode hvalue hchange
  | idArray | stringArray | stringSet | objectArray | nestedArray =>
      obtain ⟨kept, rfl, rfl⟩ := Option.map_eq_some_iff.1 hchange
      simp [matchesWire, encode, allItems, NestedKind.listToJson, Json.asString?, Json.asObject?]

end Codec

namespace Field

theorem parseChange_of_matchesWire (field : Field) {raw : Json}
    (hmatches : field.codec.matchesWire raw = true) :
    field.parseChange (some raw) = field.codec.toChange (field.codec.decode (some raw)) := by
  have hnull : raw ≠ .null := by
    rintro rfl
    rw [field.codec.matchesWire_null] at hmatches
    contradiction
  simp only [parseChange, if_neg hnull, if_pos hmatches]

/-- What one side of a change is read as: nothing, what came, or the change
value of what the codec reads. -/
theorem parseChange_eq_some {field : Field} {raw : Option Json} {change : ChangeValue}
    (hread : field.parseChange raw = some change) :
    (∃ json, raw = some json ∧ json ≠ .null ∧ field.codec.matchesWire json = false ∧
        change = .raw json) ∨
      ∃ json, raw = some json ∧ field.codec.matchesWire json = true ∧
        field.codec.toChange (field.codec.decode (some json)) = some change := by
  cases raw with
  | none => contradiction
  | some json =>
      by_cases hnull : json = .null
      · simp only [parseChange, if_pos hnull] at hread
        contradiction
      · simp only [parseChange, if_neg hnull] at hread
        cases hmatches : field.codec.matchesWire json with
        | true => exact Or.inr ⟨json, rfl, hmatches, by simpa [hmatches] using hread⟩
        | false =>
            rw [hmatches] at hread
            injection hread with hread
            exact Or.inl ⟨json, rfl, hnull, hmatches, hread.symm⟩

/-- The change value of a normal value is read again from its wire form. -/
theorem parseChange_toWire_of_isNormal {field : Field} {value : field.codec.Value}
    {change : ChangeValue} (hvalue : field.codec.IsNormal value)
    (hchange : field.codec.toChange value = some change) :
    field.parseChange (some change.toWire) = some change := by
  rw [Codec.toWire_of_toChange hchange,
    field.parseChange_of_matchesWire (Codec.matchesWire_encode hvalue hchange),
    Codec.decode_encode hvalue, hchange]

/-- The side of a change is read again from its wire form, whatever it was read
from.  A set of texts may fall apart, and a timestamp may leave the years of
four digits. -/
theorem parseChange_toWire {field : Field} (htimestamp : field.codec.domain ≠ .timestamp)
    (hset : field.codec.domain ≠ .stringSet) {raw : Option Json} {change : ChangeValue}
    (hread : field.parseChange raw = some change) :
    field.parseChange (some change.toWire) = some change := by
  rcases parseChange_eq_some hread with ⟨json, -, hnull, hmatches, rfl⟩ | ⟨json, -, -, hchange⟩
  · simp [parseChange, ChangeValue.toWire, hnull, hmatches]
  · exact parseChange_toWire_of_isNormal (Codec.isNormal_decode htimestamp hset (some json)) hchange

/-- Reading is stable under writing.  However malformed the member of a field is,
what is read of it is read again once it has been put into an empty object, and
from its wire form. -/
theorem parse_put_parse (field : Field) (htimestamp : field.codec ≠ .timestamp)
    (hset : ∀ maxLength, field.codec ≠ .stringSet maxLength) :
    (∀ (data : WireObject) (withDefaults : Bool),
      field.parse (field.put (field.parse data) withDefaults []) = field.parse data) ∧
    ∀ raw, field.codec.decode (some (field.codec.encode (field.codec.decode raw))) =
      field.codec.decode raw := by
  have hnormal : ∀ raw, field.codec.IsNormal (field.codec.decode raw) := by
    apply Codec.isNormal_decode
    · exact fun hdomain => htimestamp (Codec.domain_eq_timestamp_iff.1 hdomain)
    · intro hdomain
      obtain ⟨maxLength, hcodec⟩ := Codec.domain_eq_stringSet_iff.1 hdomain
      exact hset maxLength hcodec
  constructor
  · intro data withDefaults
    exact field.parse_put (Codec.decode_encode (hnormal _)) withDefaults rfl
  · intro raw
    exact Codec.decode_encode (hnormal raw)

/-- Overwrites of which one is no object and another has members of the wrong
kinds: the identifier and the type fall back to their defaults. -/
theorem parse_put_parse_overwrites :
    Entity.Channel.permissionOverwrites.codec ≠ .timestamp ∧
      (∀ maxLength, Entity.Channel.permissionOverwrites.codec ≠ .stringSet maxLength) ∧
      Entity.Channel.permissionOverwrites.parse
          [("permission_overwrites", .array [.null, .object [("allow", .string "8"),
            ("id", .bool true), ("type", .string "role")]])] =
        some [⟨⟨8⟩, ⟨0⟩, none, .default⟩] ∧
      Entity.Channel.permissionOverwrites.parse
          (Entity.Channel.permissionOverwrites.put (some [⟨⟨8⟩, ⟨0⟩, none, .default⟩]) false []) =
        some [⟨⟨8⟩, ⟨0⟩, none, .default⟩] := by
  have htimestamp : Entity.Channel.permissionOverwrites.codec ≠ .timestamp := nofun
  have hset : ∀ maxLength, Entity.Channel.permissionOverwrites.codec ≠ .stringSet maxLength :=
    nofun
  have hread : Entity.Channel.permissionOverwrites.parse
      [("permission_overwrites", .array [.null, .object [("allow", .string "8"),
        ("id", .bool true), ("type", .string "role")]])] =
      some [⟨⟨8⟩, ⟨0⟩, none, .default⟩] := rfl
  have hstable := (parse_put_parse _ htimestamp hset).1
    [("permission_overwrites", .array [.null, .object [("allow", .string "8"),
      ("id", .bool true), ("type", .string "role")]])] false
  rw [hread] at hstable
  exact ⟨htimestamp, hset, hread, hstable⟩

end Field

end AuditFields
