/-
Prebuilt lists of nested objects.  Such a list is accepted as it is, whatever its
objects hold.  So it is read back only if its objects have wire forms of their own, and
its wire form is valid only if the names in it have the lengths that are asked of names
elsewhere.
-/
import AuditFields.Proofs.NestedValidation
import AuditFields.Proofs.StableValidation

namespace AuditFields

namespace ScalarCodec

/-- The wire form of a value is valid just if the value lies within its bounds, unless it
may be an empty text that stands for none. -/
theorem exists_accept_encode_iff {codec : ScalarCodec} (htimestamp : codec ≠ .timestamp)
    (hoptional : ∀ length, codec = .optionalText length → length = .unbounded)
    {value : codec.Value} :
    (∃ accepted, codec.accept (.ofJson (codec.encode value)) = .ok accepted) ↔
      codec.IsWithin value := by
  constructor
  · rintro ⟨accepted, haccepted⟩
    cases codec with
    | int =>
        obtain ⟨⟨⟩, hrange, -⟩ := exists_of_bind_eq_ok haccepted
        exact Bounds.check_eq_ok_iff.1 hrange
    | text => exact (Bounds.map_check_eq_ok_iff.1 haccepted).1
    | optionalText length =>
        obtain rfl := hoptional length rfl
        exact fun _ _ => rfl
    | bool | color | id | flags | enum | timestamp | imageHash | object => trivial
  · intro hwithin
    by_cases hnormal : codec.IsNormal value
    · exact ⟨value, accept_encode hnormal hwithin⟩
    · cases codec with
      | optionalText =>
          have hempty : value = some "" := Classical.not_not.1 hnormal
          subst hempty
          exact ⟨none, rfl⟩
      | enum =>
          refine ⟨.ofCode value.code, ?_⟩
          rw [accept, encode, acceptEnum_ofUInt8]
      | object =>
          have hempty : value = some [] := Classical.not_not.1 hnormal
          subst hempty
          exact ⟨none, rfl⟩
      | timestamp => exact absurd rfl htimestamp
      | bool | int | text | color | id | flags | imageHash => exact absurd trivial hnormal

end ScalarCodec

namespace NestedKind

/-- Objects that hold no second spelling of a value: no unlisted type with the code of a
listed one, and no empty name in place of none. -/
def IsPlain : (kind : NestedKind) → kind.Item → Prop
  | .permissionOverwrite, item => .ofCode (PermissionOverwrite.targetType item).code =
      PermissionOverwrite.targetType item
  | .role, _ => True
  | .forumTag, item => ForumTag.emojiName item ≠ some ""

/-- Objects whose names have the lengths that are asked of them. -/
def IsNamed : (kind : NestedKind) → kind.Item → Prop
  | .permissionOverwrite, _ => True
  | .role, item => (PartialRole.name item).length ≤ 100
  | .forumTag, item => 1 ≤ (ForumTag.name item).length ∧ (ForumTag.name item).length ≤ 20

theorem isNormal_iff {kind : NestedKind} {item : kind.Item} :
    kind.IsNormal item ↔ kind.IsPlain item := by
  unfold IsNormal
  cases kind with
  | permissionOverwrite =>
      simp only [attributes, List.forall_mem_cons]
      change True ∧ True ∧ True ∧ IsPlain .permissionOverwrite item ∧ _ ↔ _
      simp
  | role =>
      simp only [attributes, List.forall_mem_cons]
      change True ∧ True ∧ _ ↔ True
      simp
  | forumTag =>
      simp only [attributes, List.forall_mem_cons]
      change True ∧ IsPlain .forumTag item ∧ True ∧ True ∧ True ∧ _ ↔ _
      simp

theorem isWithin_iff {kind : NestedKind} {item : kind.Item} :
    kind.IsWithin item ↔ kind.IsNamed item := by
  have hrole : ∀ n : Nat, Bounds.contains (.atMost 100) n = true ↔ n ≤ 100 := by
    intro n
    simp only [Bounds.contains, Bounds.atMost, Option.all_none, Option.all_some, Bool.true_and,
      decide_eq_true_eq]
    omega
  have htag : ∀ n : Nat, Bounds.contains (.between 1 20) n = true ↔ 1 ≤ n ∧ n ≤ 20 := by
    intro n
    simp only [Bounds.contains, Bounds.between, Option.all_some, Bool.and_eq_true,
      decide_eq_true_eq]
    omega
  unfold IsWithin
  cases kind with
  | permissionOverwrite =>
      simp only [attributes, List.forall_mem_cons]
      change True ∧ True ∧ True ∧ True ∧ _ ↔ True
      simp
  | role =>
      simp only [attributes, List.forall_mem_cons]
      change True ∧ Bounds.contains (.atMost 100) (PartialRole.name item).length = true ∧ _ ↔ _
      simp [hrole, IsNamed]
  | forumTag =>
      simp only [attributes, List.forall_mem_cons]
      change True ∧ (∀ s, ForumTag.emojiName item = some s → true = true) ∧ True ∧ True ∧
        Bounds.contains (.between 1 20) (ForumTag.name item).length = true ∧ _ ↔ _
      simp [htag, IsNamed]

/-- The wire form of an object is valid just if the names in it have their lengths. -/
theorem exists_validate_toWire_iff_isNamed {kind : NestedKind} {item : kind.Item} :
    (∃ valid, kind.validate (kind.toWire item true) = .ok valid) ↔ kind.IsNamed item := by
  have hfields : ∀ field ∈ kind.fields, field.codec ≠ .timestamp ∧
      ∀ length, field.codec = .optionalText length → length = .unbounded := by
    cases kind <;> simp only [fields, List.forall_mem_cons]
    case permissionOverwrite =>
      exact ⟨⟨by decide, nofun⟩, ⟨by decide, nofun⟩, ⟨by decide, nofun⟩, ⟨by decide, nofun⟩,
        List.forall_mem_nil _⟩
    case role => exact ⟨⟨by decide, nofun⟩, ⟨by decide, nofun⟩, List.forall_mem_nil _⟩
    case forumTag =>
      refine ⟨⟨by decide, nofun⟩, ⟨by decide, ?_⟩, ⟨by decide, nofun⟩, ⟨by decide, nofun⟩,
        ⟨by decide, nofun⟩, List.forall_mem_nil _⟩
      exact fun _ hlength => (ScalarCodec.optionalText.inj hlength).symm
  have haccept : ∀ member ∈ kind.attributes item,
      (∃ value, member.field.codec.accept
        (.ofJson (member.field.codec.encode member.value)) = .ok value) ↔
          member.field.codec.IsWithin member.value := by
    intro member hmem
    have hfield : member.field ∈ kind.fields :=
      kind.map_field_attributes item ▸ List.mem_map_of_mem hmem
    exact ScalarCodec.exists_accept_encode_iff (hfields _ hfield).1 (hfields _ hfield).2
  rw [exists_validate_toWire_iff, ← isWithin_iff]
  constructor
  · intro hvalid member hmem
    by_cases hmoderated : member.field = ForumTag.moderatedField
    · obtain ⟨field, value⟩ := member
      subst hmoderated
      trivial
    · exact (haccept member hmem).1 (hvalid member hmem hmoderated)
  · exact fun hwithin member hmem _ => (haccept member hmem).2 (hwithin member hmem)

end NestedKind

namespace Codec

/-- A value is accepted from its wire form just if it is normal and within its bounds. -/
theorem accept_encode_iff {codec : Codec} (hcodec : codec ≠ .timestamp) {value : codec.Value} :
    codec.accept (.ofJson (codec.encode value)) = .ok value ↔
      codec.IsNormal value ∧ codec.IsWithin value := by
  constructor
  · intro haccept
    have hinspects : codec.Inspects (.ofJson (codec.encode value)) := by
      apply inspects_of_ne_nested
      intro kind items
      cases codec.encode value with
      | number n => cases n <;> nofun
      | null | bool | string | array | object => nofun
    exact ⟨isNormal_accept hcodec hinspects haccept, isWithin_accept hinspects haccept⟩
  · exact fun hvalue => accept_encode hvalue.1 hvalue.2

section PrebuiltLists

variable (kind : NestedKind) (items : List kind.Item)

/-- The value of a prebuilt list. -/
def prebuilt : Option (List kind.Item) :=
  EmptyRule.unset.normalize List.isEmpty (some items)

theorem accept_nested : (nestedArray kind).accept (.domain (.nested kind items)) =
    .ok (prebuilt kind items) :=
  dif_pos rfl

theorem encode_prebuilt :
    (nestedArray kind).encode (prebuilt kind items) = kind.listToJson items := by
  cases items <;> rfl

theorem prebuilt_eq_some_iff {kept : List kind.Item} :
    prebuilt kind items = some kept ↔ items = kept ∧ kept ≠ [] := by
  cases items with
  | nil =>
      refine iff_of_false nofun ?_
      rintro ⟨rfl, hne⟩
      exact hne rfl
  | cons first rest =>
      rw [prebuilt, EmptyRule.normalize_list_of_ne_nil _ (List.cons_ne_nil _ _), Option.some.injEq]
      refine ⟨?_, And.left⟩
      rintro rfl
      exact ⟨rfl, List.cons_ne_nil _ _⟩

theorem isNormal_prebuilt_iff : (nestedArray kind).IsNormal (prebuilt kind items) ↔
    ∀ item ∈ items, kind.IsPlain item := by
  simp only [IsNormal, ne_eq, prebuilt_eq_some_iff, NestedKind.isNormal_iff]
  cases items <;> simp

theorem isWithin_prebuilt_iff : (nestedArray kind).IsWithin (prebuilt kind items) ↔
    ∀ item ∈ items, kind.IsNamed item := by
  simp only [IsWithin, prebuilt_eq_some_iff, NestedKind.isWithin_iff]
  cases items <;> simp

/-- The wire form of a prebuilt list is accepted just if that of each object is valid. -/
theorem exists_accept_encode_prebuilt_iff :
    (∃ value, (nestedArray kind).accept
      (.ofJson ((nestedArray kind).encode (prebuilt kind items))) = .ok value) ↔
        ∀ item ∈ items, kind.IsNamed item := by
  rw [encode_prebuilt, NestedKind.listToJson, Candidate.ofJson, exists_accept_nestedArray_iff,
    Candidate.ofJsonItems_eq_map, List.map_map, List.forall_mem_map]
  simp only [Function.comp_apply, Candidate.ofJson, exists_acceptItemNested_iff,
    NestedKind.exists_validate_toWire_iff_isNamed]

/-- Every prebuilt list is accepted.  It is read back from its wire form exactly when its
objects are plain; its wire form is accepted exactly when the names in it have their
lengths, and as the same list exactly when both hold. -/
theorem prebuilt_readback_iff :
    ∃ value, (nestedArray kind).accept (.domain (.nested kind items)) = .ok value ∧
      ((nestedArray kind).decode (some ((nestedArray kind).encode value)) = value ↔
        ∀ item ∈ items, kind.IsPlain item) ∧
      ((∃ other, (nestedArray kind).accept (.ofJson ((nestedArray kind).encode value)) =
          .ok other) ↔ ∀ item ∈ items, kind.IsNamed item) ∧
      ((nestedArray kind).accept (.ofJson ((nestedArray kind).encode value)) = .ok value ↔
        ∀ item ∈ items, kind.IsPlain item ∧ kind.IsNamed item) := by
  refine ⟨prebuilt kind items, accept_nested kind items, ?_, ?_, ?_⟩
  · exact decode_encode_iff.trans (isNormal_prebuilt_iff kind items)
  · exact exists_accept_encode_prebuilt_iff kind items
  · rw [accept_encode_iff (by nofun), isNormal_prebuilt_iff, isWithin_prebuilt_iff]
    constructor
    · rintro ⟨hplain, hnamed⟩ item hmem
      exact ⟨hplain item hmem, hnamed item hmem⟩
    · intro hboth
      exact ⟨fun item hmem => (hboth item hmem).1, fun item hmem => (hboth item hmem).2⟩

end PrebuiltLists

/-- A prebuilt tag without a name is accepted, but the array that is written for it is
not.  One with an empty name for its emoji is accepted too, and read back as another. -/
theorem prebuilt_tags_not_read_back :
    (nestedArray .forumTag).accept (.domain (.nested .forumTag [⟨none, none, none, false, ""⟩])) =
        .ok (some [⟨none, none, none, false, ""⟩]) ∧
      (∃ rejection, (nestedArray .forumTag).accept (.ofJson ((nestedArray .forumTag).encode
        (some [⟨none, none, none, false, ""⟩]))) = .error rejection) ∧
      (nestedArray .forumTag).accept
          (.domain (.nested .forumTag [⟨none, some "", none, false, "a"⟩])) =
        .ok (some [⟨none, some "", none, false, "a"⟩]) ∧
      (nestedArray .forumTag).decode (some ((nestedArray .forumTag).encode
        (some [⟨none, some "", none, false, "a"⟩]))) = some [⟨none, none, none, false, "a"⟩] :=
  ⟨rfl, ⟨_, rfl⟩, rfl, rfl⟩

end Codec

end AuditFields
