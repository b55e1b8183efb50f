/-
Candidates made of JSON values.  Reading looks at a wire value as JSON, while
validation looks at the candidate that is made of it.  What validation accepts
is what reading makes of the wire value, item by item and attribute by attribute.
-/
import AuditFields.Proofs.AcceptedShapes
import AuditFields.Proofs.NestedValues
import AuditFields.Proofs.NumeralRanges

namespace AuditFields

@[simp] theorem Candidate.asString?_ofJson (raw : Json) :
    (ofJson raw).asString? = raw.asString? := by
  cases raw with
  | number n => cases n <;> rfl
  | null | bool | string | array | object => rfl

/-- A number that validation takes for one of 64 bits without a sign is natural. -/
theorem exists_nat_of_unsigned64 {z : Int} {n : UInt64} (hn : unsigned64 z = .ok n) :
    ∃ m : Nat, z = m ∧ m ≤ 0xFFFFFFFFFFFFFFFF ∧ UInt64.ofNat m = n := by
  unfold unsigned64 at hn
  split at hn
  · rename_i hrange
    exact ⟨z.toNat, by omega, by omega, Except.ok.inj hn⟩
  · contradiction

theorem Json.asUInt64?_of_unsigned64 {z : Int} {range} {n : UInt64}
    (hn : unsigned64 z = .ok n) : (ofInt z range).asUInt64? = some n := by
  obtain ⟨m, rfl, -, rfl⟩ := exists_nat_of_unsigned64 hn
  rfl

/-- The text of an identifier is validated as an integer of 128 bits with a sign, and
read as one of 64 bits without.  Both give one number, except that a zero with a
minus sign is not read, which is no identifier either way. -/
theorem Codec.itemId?_string {space : IdSpace} {s : String} {n : Nat} (hle : n ≤ 0xFFFFFFFFFFFFFFFF)
    (hn : Text.readInt128 s.toList = .ok n) :
    (itemId? (.string s) : Option (Snowflake space)) =
      Snowflake.ofUInt64? (UInt64.ofNat n) := by
  simp only [itemId?, Json.asUInt64?]
  rcases Nat.eq_zero_or_pos n with rfl | hpos
  · cases hread : Text.readUInt64 s.toList with
    | error e => rfl
    | ok k =>
        have hk : Text.readInt128 s.toList = .ok k :=
          Text.readInteger_of_readNatural (by decide) hread
        rw [hn, Except.ok.injEq, Int.ofNat_inj] at hk
        rw [← hk]
        rfl
  · have hread : Text.readUInt64 s.toList = .ok n := Text.readNatural_of_readInteger hpos hle hn
    simp only [hread, Option.bind_some]

/-- A text within its bounds is taken over as it is, whatever the refusal of another
candidate says. -/
theorem asString?_of_checkLength {length : Bounds} {rejection : Rejection} {raw : Json}
    {value : String}
    (hvalue : (match (Candidate.ofJson raw).asString? with
      | some s => (length.checkLength s).map fun _ => s
      | none => .error rejection) = .ok value) : raw.asString? = some value := by
  rw [← Candidate.asString?_ofJson]
  exact (checkLength_eq_ok_iff.1 hvalue).1

namespace ScalarCodec

theorem asBool?_of_acceptBool {raw : Json} {value : Bool}
    (hvalue : acceptBool (.ofJson raw) = .ok value) : raw.asBool? = some value := by
  cases raw with
  | bool => exact congrArg some (Except.ok.inj hvalue)
  | number n => cases n <;> contradiction
  | null | string | array | object => contradiction

theorem asInt64?_of_acceptInt {range : Bounds} {raw : Json} {value : Int64}
    (hvalue : acceptInt range (.ofJson raw) = .ok value) : raw.asInt64? = some value := by
  cases raw with
  | number n =>
      cases n with
      | int z =>
          obtain ⟨-, -, hvalue⟩ := exists_of_bind_eq_ok hvalue
          split at hvalue
          · rename_i hsigned
            rw [← Except.ok.inj hvalue]
            exact if_pos hsigned.2
          · contradiction
      | float => contradiction
  | null | bool | string | array | object => contradiction

theorem asString?_of_acceptText {length : Bounds} {raw : Json} {value : String}
    (hvalue : acceptText length (.ofJson raw) = .ok value) : raw.asString? = some value :=
  asString?_of_checkLength hvalue

theorem filter_asString?_of_acceptOptionalText {length : Bounds} {raw : Json}
    {value : Option String} (hvalue : acceptOptionalText length (.ofJson raw) = .ok value) :
    (raw.asString?.filter fun s => s ≠ "") = value := by
  rcases (acceptOptionalText_eq_ok_iff.1 hvalue).1 with ⟨hnull, rfl⟩ | ⟨s, hs, rfl⟩
  · have hs := Candidate.asString?_ofJson raw
    rw [hnull] at hs
    rw [← hs]
    rfl
  · rw [Candidate.asString?_ofJson] at hs
    rw [hs]
    by_cases hempty : s = "" <;> simp [hempty]

/-- The text of a colour is accepted too, but is not read. -/
theorem asColor?_of_acceptColor {raw : Json} (htext : raw.asString? = none) {value : Color}
    (hvalue : acceptColor (.ofJson raw) = .ok value) : raw.asColor? = some value := by
  cases raw with
  | number n =>
      cases n with
      | int z =>
          simp only [Candidate.ofJson, acceptColor] at hvalue
          split at hvalue
          · rename_i hcolor
            rw [← Except.ok.inj hvalue, ← hcolor, Json.asColor?, Json.asNat?_int]
            split <;> rfl
          · contradiction
      | float => contradiction
  | string => contradiction
  | null | bool | array | object => contradiction

theorem itemId?_of_acceptSnowflake {space : IdSpace} {raw : Json}
    {value : Option (Snowflake space)} (hvalue : acceptSnowflake (.ofJson raw) = .ok value) :
    Codec.itemId? raw = value := by
  cases raw with
  | null => exact Except.ok.inj hvalue
  | number n =>
      cases n with
      | int z =>
          obtain ⟨n, hn, rfl⟩ := exists_of_map_eq_ok hvalue
          exact congrArg (Option.bind · Snowflake.ofUInt64?) (Json.asUInt64?_of_unsigned64 hn)
      | float => contradiction
  | string s =>
      simp only [Candidate.ofJson, acceptSnowflake] at hvalue
      split at hvalue
      · contradiction
      · rename_i z hz
        obtain ⟨n, hn, rfl⟩ := exists_of_map_eq_ok hvalue
        obtain ⟨m, rfl, hle, rfl⟩ := exists_nat_of_unsigned64 hn
        exact Codec.itemId?_string hle hz
  | bool | array | object => contradiction

theorem asUInt64?_of_acceptFlags {kind : FlagKind} {raw : Json} {value : FlagSet kind}
    (hvalue : acceptFlags kind (.ofJson raw) = .ok value) : raw.asUInt64? = some value.bits := by
  cases raw with
  | number n =>
      cases n with
      | int z =>
          obtain ⟨n, hn, rfl⟩ := exists_of_map_eq_ok hvalue
          exact Json.asUInt64?_of_unsigned64 hn
      | float => contradiction
  | string s =>
      simp only [Candidate.ofJson, acceptFlags] at hvalue
      split at hvalue
      · split at hvalue
        · rename_i n hn
          rw [← Except.ok.inj hvalue]
          simp only [Json.asUInt64?, hn]
        · contradiction
      · contradiction
  | null | bool | array | object => contradiction

theorem asEnumValue?_of_acceptEnum {kind : EnumKind} {raw : Json} {value : EnumValue kind}
    (hvalue : acceptEnum kind (.ofJson raw) = .ok value) : raw.asEnumValue? = some value := by
  cases raw with
  | number n =>
      cases n with
      | int z =>
          simp only [Candidate.ofJson, acceptEnum] at hvalue
          split at hvalue
          · rename_i hrange
            obtain ⟨m, rfl⟩ := Int.eq_ofNat_of_zero_le hrange.1
            have hlt : m < 256 := by omega
            rw [← Except.ok.inj hvalue]
            exact if_pos hlt
          · contradiction
      | float => contradiction
  | null | bool | string | array | object => contradiction

theorem asTimestamp?_of_acceptTimestamp {raw : Json} {value : Option Timestamp}
    (hvalue : acceptTimestamp (.ofJson raw) = .ok value) : raw.asTimestamp? = value := by
  cases raw with
  | null => exact Except.ok.inj hvalue
  | string s =>
      simp only [Candidate.ofJson, acceptTimestamp] at hvalue
      split at hvalue
      · rename_i t ht
        rw [← Except.ok.inj hvalue]
        exact Json.asTimestamp?_string_eq_some_iff.2 ht
      · contradiction
  | number n => cases n <;> contradiction
  | bool | array | object => contradiction

theorem asImageHash?_of_acceptImageHash {raw : Json} {value : Option ImageHash}
    (hvalue : acceptImageHash (.ofJson raw) = .ok value) : raw.asImageHash? = value := by
  cases raw with
  | null => exact Except.ok.inj hvalue
  | string s =>
      simp only [Candidate.ofJson, acceptImageHash] at hvalue
      split at hvalue
      · rename_i hash hhash
        rw [← Except.ok.inj hvalue]
        exact Json.asImageHash?_string_eq_some_iff.2 hhash
      · contradiction
  | number n => cases n <;> contradiction
  | bool | array | object => contradiction

theorem filter_asObject?_of_acceptObject {raw : Json} {value : Option WireObject}
    (hvalue : acceptObject (.ofJson raw) = .ok value) :
    (raw.asObject?.filter fun object => object ≠ []) = value := by
  cases raw with
  | null => exact Except.ok.inj hvalue
  | object members =>
      rw [← Except.ok.inj hvalue]
      by_cases hempty : members = [] <;> simp [Json.asObject?, hempty]
  | number n => cases n <;> contradiction
  | bool | string | array => contradiction

/-- Accepted single values are the ones that are read, but for the texts of colours. -/
theorem decode_of_accept_ofJson {codec : ScalarCodec} {raw : Json}
    (hcolor : codec = .color → raw.asString? = none) {value : codec.Value}
    (hvalue : codec.accept (.ofJson raw) = .ok value) : codec.decode (some raw) = value := by
  cases codec with
  | bool => rw [decode, Option.bind_some, asBool?_of_acceptBool hvalue, Option.getD_some]
  | int => rw [decode, Option.bind_some, asInt64?_of_acceptInt hvalue, Option.getD_some]
  | text => rw [decode, Option.bind_some, asString?_of_acceptText hvalue, Option.getD_some]
  | optionalText => exact filter_asString?_of_acceptOptionalText hvalue
  | color =>
      rw [decode, Option.bind_some, asColor?_of_acceptColor (hcolor rfl) hvalue, Option.getD_some]
  | id => exact itemId?_of_acceptSnowflake hvalue
  | flags => rw [decode, Option.bind_some, asUInt64?_of_acceptFlags hvalue, Option.getD_some]
  | enum => rw [decode, Option.bind_some, asEnumValue?_of_acceptEnum hvalue, Option.getD_some]
  | timestamp => exact asTimestamp?_of_acceptTimestamp hvalue
  | imageHash => exact asImageHash?_of_acceptImageHash hvalue
  | object => exact filter_asObject?_of_acceptObject hvalue

/-- Null is read as an absent member is. -/
theorem decode_null (codec : ScalarCodec) : codec.decode (some .null) = codec.decode none := by
  cases codec <;> rfl

end ScalarCodec

namespace ScalarField

theorem accept_of_validate {field : ScalarField} {candidate : Candidate}
    {value : field.codec.Value} (hvalid : field.validate candidate = .ok value) :
    field.codec.accept candidate = .ok value := by
  cases haccept : field.codec.accept candidate with
  | error rejection =>
      simp only [validate, haccept] at hvalid
      contradiction
  | ok accepted =>
      simp only [validate, haccept] at hvalid
      rw [Except.ok.inj hvalid]

/-- A validated attribute of an object is the one that is read.  An absent member
counts as a candidate, which must be accepted as what is read of nothing. -/
theorem parse_of_validate {field : ScalarField} (hcolor : field.codec ≠ .color)
    (absent : Candidate) {data : WireObject} {value : field.codec.Value}
    (habsent : field.codec.accept absent = .ok value → field.codec.decode none = value)
    (hvalid : field.validate ((data.get? field.key).elim absent .ofJson) = .ok value) :
    field.parse data = value := by
  have haccept := accept_of_validate hvalid
  rw [parse]
  cases hmember : data.get? field.key with
  | none =>
      rw [hmember] at haccept
      exact habsent haccept
  | some raw =>
      rw [hmember] at haccept
      exact ScalarCodec.decode_of_accept_ofJson (fun heq => absurd heq hcolor) haccept

theorem parse_of_validateMember {field : ScalarField} (hcolor : field.codec ≠ .color)
    {data : WireObject} {value : field.codec.Value}
    (hvalid : field.validateMember data = .ok value) : field.parse data = value := by
  apply parse_of_validate hcolor .null _ hvalid
  intro haccept
  rw [← field.codec.decode_null]
  exact ScalarCodec.decode_of_accept_ofJson (fun _ => rfl) haccept

end ScalarField

namespace NestedKind

/-- What a valid object is made of: each attribute is the one that is read, and one that
its field takes for valid. -/
theorem attributes_of_validate {kind : NestedKind} {data : WireObject} {item : kind.Item}
    (hvalid : kind.validate data = .ok item) : ∀ member ∈ kind.attributes item,
      member.field.parse data = member.value ∧
        ∃ candidate, member.field.validate candidate = .ok member.value := by
  have hmember : ∀ {field : ScalarField} {value : field.codec.Value}, field.codec ≠ .color →
      field.validateMember data = .ok value →
      field.parse data = value ∧ ∃ candidate, field.validate candidate = .ok value :=
    fun hcolor hvalue => ⟨ScalarField.parse_of_validateMember hcolor hvalue, _, hvalue⟩
  cases kind with
  | permissionOverwrite =>
      unfold NestedKind.validate PermissionOverwrite.validate at hvalid
      obtain ⟨allow, hallow, hvalid⟩ := exists_of_bind_eq_ok hvalid
      obtain ⟨deny, hdeny, hvalid⟩ := exists_of_bind_eq_ok hvalid
      obtain ⟨targetId, htargetId, hvalid⟩ := exists_of_bind_eq_ok hvalid
      obtain ⟨targetType, htargetType, hvalid⟩ := exists_of_bind_eq_ok hvalid
      rw [← Except.ok.inj hvalid]
      simp only [attributes, List.forall_mem_cons]
      refine ⟨⟨?_, _, hallow⟩, ⟨?_, _, hdeny⟩, hmember (by decide) htargetId,
        hmember (by decide) htargetType, List.forall_mem_nil _⟩
      -- an absent permission set counts as zero, and is read as the empty set
      · exact ScalarField.parse_of_validate (by decide) (.integer 0) Except.ok.inj hallow
      · exact ScalarField.parse_of_validate (by decide) (.integer 0) Except.ok.inj hdeny
  | role =>
      unfold NestedKind.validate PartialRole.validate at hvalid
      obtain ⟨id, hid, hvalid⟩ := exists_of_bind_eq_ok hvalid
      obtain ⟨name, hname, hvalid⟩ := exists_of_bind_eq_ok hvalid
      rw [← Except.ok.inj hvalid]
      simp only [attributes, List.forall_mem_cons]
      exact ⟨hmember (by decide) hid, hmember (by decide) hname, List.forall_mem_nil _⟩
  | forumTag =>
      unfold NestedKind.validate ForumTag.validate at hvalid
      obtain ⟨emojiId, hemojiId, hvalid⟩ := exists_of_bind_eq_ok hvalid
      obtain ⟨emojiName, hemojiName, hvalid⟩ := exists_of_bind_eq_ok hvalid
      obtain ⟨id, hid, hvalid⟩ := exists_of_bind_eq_ok hvalid
      obtain ⟨name, hname, hvalid⟩ := exists_of_bind_eq_ok hvalid
      rw [← Except.ok.inj hvalid]
      simp only [attributes, List.forall_mem_cons]
      -- whether a tag is moderated is read as from the wire, and any answer is valid
      exact ⟨hmember (by decide) hemojiId, hmember (by decide) hemojiName, hmember (by decide) hid,
        ⟨trivial, .bool (ForumTag.moderatedField.parse data), rfl⟩, hmember (by decide) hname,
        List.forall_mem_nil _⟩

/-- An object that was validated attribute by attribute is the one that is read. -/
theorem ofWire_of_validate {kind : NestedKind} {data : WireObject} {item : kind.Item}
    (hvalid : kind.validate data = .ok item) : kind.ofWire data = item :=
  ofWire_eq fun member hmem => (attributes_of_validate hvalid member hmem).1

end NestedKind

theorem Candidate.ofJsonItems_eq_map (items : List Json) :
    ofJsonItems items = items.map ofJson := by
  induction items with
  | nil => rfl
  | cons first rest ih => rw [ofJsonItems, ih, List.map_cons]

namespace Codec

/-- If every item is accepted as it is read, then so is an array of them.  Items may
be left out on either side. -/
theorem filterMap_of_acceptItems {α β : Type} {accept : Candidate → Except Rejection α}
    {read : Json → Option β} {keep : α → Option β}
    (hitem : ∀ item value, accept (.ofJson item) = .ok value → read item = keep value)
    {items : List Json} {values : List α}
    (hvalues : acceptItems accept (Candidate.ofJsonItems items) = .ok values) :
    items.filterMap read = values.filterMap keep := by
  rw [Candidate.ofJsonItems_eq_map, acceptItems_eq_ok_iff, List.forall₂_map_left_iff] at hvalues
  induction hvalues with
  | nil => rfl
  | cons hfirst _ ih => rw [List.filterMap_cons, List.filterMap_cons, hitem _ _ hfirst, ih]

/-- Items that are all read are the accepted ones. -/
theorem filterMap_eq_of_acceptItems {α : Type} {accept : Candidate → Except Rejection α}
    {read : Json → Option α}
    (hitem : ∀ item value, accept (.ofJson item) = .ok value → read item = some value)
    {items : List Json} {values : List α}
    (hvalues : acceptItems accept (Candidate.ofJsonItems items) = .ok values) :
    items.filterMap read = values := by
  rw [filterMap_of_acceptItems hitem hvalues, List.filterMap_some]

theorem decode_of_acceptIds {space : IdSpace} {maxItems : Option Nat} {raw : Json}
    {value : Option (List (Snowflake space))}
    (hvalue : acceptIds maxItems (.ofJson raw) = .ok value) :
    (idArray space maxItems).decode (some raw) = value := by
  cases raw with
  | null => exact Except.ok.inj hvalue
  | array items =>
      simp only [Candidate.ofJson, acceptIds] at hvalue
      split at hvalue
      · contradiction
      · rename_i ids hids
        obtain ⟨-, -, rfl⟩ := exists_of_map_eq_ok hvalue
        have hread := filterMap_of_acceptItems
          (fun _ _ => ScalarCodec.itemId?_of_acceptSnowflake) hids
        exact congrArg normalizeIds hread
  | number n => cases n <;> contradiction
  | bool | string | object => contradiction

theorem asString?_of_acceptItemText {maxLength : Option Nat} {raw : Json} {value : String}
    (hvalue : acceptItemText maxLength (.ofJson raw) = .ok value) : raw.asString? = some value :=
  asString?_of_checkLength hvalue

theorem decode_of_acceptStrings {empties : EmptyRule} {maxLength maxItems : Option Nat}
    {raw : Json} {value : Option (List String)}
    (hvalue : acceptStrings empties maxLength maxItems (.ofJson raw) = .ok value) :
    (stringArray empties maxLength maxItems).decode (some raw) = value := by
  cases raw with
  | null => exact Except.ok.inj hvalue
  | array items =>
      simp only [Candidate.ofJson, acceptStrings] at hvalue
      split at hvalue
      · contradiction
      · rename_i strings hstrings
        obtain ⟨-, -, rfl⟩ := exists_of_map_eq_ok hvalue
        have hread := filterMap_eq_of_acceptItems
          (fun _ _ => asString?_of_acceptItemText) hstrings
        exact congrArg (fun strings => empties.normalize List.isEmpty (some strings)) hread
  | number n => cases n <;> contradiction
  | bool | string | object => contradiction

/-- A set of texts given as one text; an array may hold texts that are collected
otherwise than they are read. -/
theorem decode_of_acceptTextSet {maxLength : Option Nat} {raw : Json}
    (harray : raw.asArray? = none) {value : Option TextSet}
    (hvalue : acceptTextSet maxLength (.ofJson raw) = .ok value) :
    (stringSet maxLength).decode (some raw) = value := by
  cases raw with
  | null => exact Except.ok.inj hvalue
  | string s =>
      obtain ⟨⟨items, hitems, hset⟩, -⟩ := acceptTextSet_eq_ok_iff.1 hvalue
      obtain rfl : Text.commaItems s = items := hitems
      exact hset
  | array => contradiction
  | number n => cases n <;> contradiction
  | bool | object => contradiction

theorem asObject?_of_acceptItemObject {raw : Json} {members : WireObject}
    (hmembers : acceptItemObject (.ofJson raw) = .ok members) :
    raw.asObject? = some members := by
  cases raw with
  | object => exact congrArg some (Except.ok.inj hmembers)
  | number n => cases n <;> contradiction
  | null | bool | string | array => contradiction

theorem decode_of_acceptObjects {maxItems : Option Nat} {raw : Json}
    {value : Option (List WireObject)} (hvalue : acceptObjects maxItems (.ofJson raw) = .ok value) :
    (objectArray maxItems).decode (some raw) = value := by
  cases raw with
  | null => exact Except.ok.inj hvalue
  | array items =>
      simp only [Candidate.ofJson, acceptObjects] at hvalue
      split at hvalue
      · contradiction
      · rename_i objects hobjects
        obtain ⟨-, -, rfl⟩ := exists_of_map_eq_ok hvalue
        have hread := filterMap_eq_of_acceptItems
          (fun _ _ => asObject?_of_acceptItemObject) hobjects
        exact congrArg (fun objects => EmptyRule.unset.normalize List.isEmpty (some objects)) hread
  | number n => cases n <;> contradiction
  | bool | string | object => contradiction

/-- An accepted nested object was validated attribute by attribute. -/
theorem acceptItemNested_eq_ok {kind : NestedKind} {candidate : Candidate} {item : kind.Item}
    (hitem : acceptItemNested kind candidate = .ok item) :
    ∃ members, acceptItemObject candidate = .ok members ∧ kind.validate members = .ok item := by
  unfold acceptItemNested at hitem
  split at hitem
  · contradiction
  · rename_i members hmembers
    split at hitem
    · rename_i validated hvalid
      exact ⟨members, hmembers, Except.ok.inj hitem ▸ hvalid⟩
    · contradiction

theorem map_asObject?_of_acceptItemNested {kind : NestedKind} {raw : Json} {item : kind.Item}
    (hitem : acceptItemNested kind (.ofJson raw) = .ok item) :
    raw.asObject?.map kind.ofWire = some item := by
  obtain ⟨members, hmembers, hvalid⟩ := acceptItemNested_eq_ok hitem
  rw [asObject?_of_acceptItemObject hmembers, Option.map_some,
    NestedKind.ofWire_of_validate hvalid]

theorem decode_of_acceptNested {kind : NestedKind} {raw : Json}
    {value : Option (List kind.Item)} (hvalue : acceptNested kind (.ofJson raw) = .ok value) :
    (nestedArray kind).decode (some raw) = value := by
  cases raw with
  | null => exact Except.ok.inj hvalue
  | array items =>
      obtain ⟨accepted, haccepted, rfl⟩ := exists_of_map_eq_ok hvalue
      have hread := filterMap_eq_of_acceptItems
        (fun _ _ => map_asObject?_of_acceptItemNested) haccepted
      rw [← List.map_filterMap] at hread
      exact congrArg (fun items => EmptyRule.unset.normalize List.isEmpty (some items)) hread
  | number n => cases n <;> contradiction
  | bool | string | object => contradiction

/-- A colour that is recognised on the wire is a number. -/
theorem asString?_of_matchesWire_color {raw : Json} (hraw : color.matchesWire raw = true) :
    raw.asString? = none := by
  cases raw with
  | string => contradiction
  | null | bool | number | array | object => rfl

/-- Validation and reading agree.  If a wire value that a codec recognises, or null,
is accepted as a candidate, then it is read as what was accepted; for a set of texts
it must be one text.  In the same way a validated object is read as what validation
made of it. -/
theorem decode_eq_of_accept :
    (∀ (codec : Codec) (raw : Json), raw = .null ∨ codec.matchesWire raw = true →
      (∀ maxLength, codec = .stringSet maxLength → raw.asArray? = none) →
      ∀ value, codec.accept (.ofJson raw) = .ok value → codec.decode (some raw) = value) ∧
    ∀ (kind : NestedKind) (data : WireObject) (item : kind.Item),
      kind.validate data = .ok item → kind.ofWire data = item := by
  constructor
  · intro codec raw hraw hset value hvalue
    cases codec with
    | scalar codec =>
        apply ScalarCodec.decode_of_accept_ofJson _ hvalue
        rintro rfl
        rcases hraw with rfl | hmatches
        · rfl
        · exact asString?_of_matchesWire_color hmatches
    | idArray => exact decode_of_acceptIds hvalue
    | stringArray => exact decode_of_acceptStrings hvalue
    | stringSet => exact decode_of_acceptTextSet (hset _ rfl) hvalue
    | objectArray => exact decode_of_acceptObjects hvalue
    | nestedArray => exact decode_of_acceptNested hvalue
  · intro kind data item hvalid
    exact NestedKind.ofWire_of_validate hvalid

/-- Identifiers in three forms, one of them twice, and an overwrite that allows
nothing by leaving the member out. -/
theorem decode_eq_of_accept_roles :
    (idArray .role none).matchesWire
        (.array [.string "7", .ofInt 3 (by decide), .string "+7"]) = true ∧
      (idArray .role none).accept
          (.ofJson (.array [.string "7", .ofInt 3 (by decide), .string "+7"])) =
        .ok (some [⟨3, by decide⟩, ⟨7, by decide⟩]) ∧
      (idArray .role none).decode
          (some (.array [.string "7", .ofInt 3 (by decide), .string "+7"])) =
        some [⟨3, by decide⟩, ⟨7, by decide⟩] ∧
      NestedKind.permissionOverwrite.validate
          [("deny", .string "1024"), ("id", .string "7"), ("type", .ofInt 1 (by decide))] =
        .ok ⟨⟨0⟩, ⟨1024⟩, some ⟨7, by decide⟩, .ofCode 1⟩ ∧
      NestedKind.permissionOverwrite.ofWire
          [("deny", .string "1024"), ("id", .string "7"), ("type", .ofInt 1 (by decide))] =
        ⟨⟨0⟩, ⟨1024⟩, some ⟨7, by decide⟩, .ofCode 1⟩ := by
  have hmatches : (idArray .role none).matchesWire
      (.array [.string "7", .ofInt 3 (by decide), .string "+7"]) = true := by decide
  have haccept : (idArray .role none).accept
      (.ofJson (.array [.string "7", .ofInt 3 (by decide), .string "+7"])) =
      .ok (some [⟨3, by decide⟩, ⟨7, by decide⟩]) := rfl
  have hvalid : NestedKind.permissionOverwrite.validate
      [("deny", .string "1024"), ("id", .string "7"), ("type", .ofInt 1 (by decide))] =
      .ok ⟨⟨0⟩, ⟨1024⟩, some ⟨7, by decide⟩, .ofCode 1⟩ := rfl
  exact ⟨hmatches, haccept, decode_eq_of_accept.1 _ _ (Or.inr hmatches) nofun _ haccept, hvalid,
    decode_eq_of_accept.2 _ _ _ hvalid⟩

end Codec

end AuditFields
