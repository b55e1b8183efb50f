/-
Validation of nested objects.  The fields of an object are validated in order and
the first refusal is that of the object.  Every field is among them but one: whether
a forum tag is moderated is read as from the wire, so that a member which is no
switch there counts as an absent one.
-/
import AuditFields.Proofs.JsonCandidates

namespace AuditFields

/-- A field that validation looks at, with the candidate that an absent member of it
counts as. -/
structure CheckedField where
  field : ScalarField
  absent : Candidate

namespace CheckedField

/-- The candidate of the field's member. -/
def candidate (checked : CheckedField) (data : WireObject) : Candidate :=
  (data.get? checked.field.key).elim checked.absent .ofJson

/-- The refusal of the field's member, if it is refused. -/
def refusal? (checked : CheckedField) (data : WireObject) : Option ValidationError :=
  match checked.field.validate (checked.candidate data) with
  | .ok _ => none
  | .error e => some e

theorem refusal?_eq_some_iff {checked : CheckedField} {data : WireObject} {e : ValidationError} :
    checked.refusal? data = some e ↔
      checked.field.validate (checked.candidate data) = .error e := by
  unfold refusal?
  split
  · rename_i hvalid
    simp [hvalid]
  · rename_i hrefused
    simp [hrefused]

theorem refusal?_eq_none_iff {checked : CheckedField} {data : WireObject} :
    checked.refusal? data = none ↔
      ∃ value, checked.field.validate (checked.candidate data) = .ok value := by
  unfold refusal?
  split
  · rename_i hvalid
    simp [hvalid]
  · rename_i hrefused
    simp [hrefused]

/-- The first refusal among some fields of an object. -/
def firstRefusal? (checked : List CheckedField) (data : WireObject) : Option ValidationError :=
  checked.findSome? fun checked => checked.refusal? data

/-- A result that is there as long as none of some fields refuses its member, and
otherwise is the first refusal. -/
def Decides (checked : List CheckedField) (data : WireObject) {α : Type}
    (result : Except ValidationError α) : Prop :=
  match firstRefusal? checked data with
  | none => ∃ a, result = .ok a
  | some e => result = .error e

theorem decides_nil (data : WireObject) {α : Type} (a : α) :
    Decides [] data (.ok a) :=
  ⟨a, rfl⟩

/-- A field that is validated before anything else decides first. -/
theorem decides_cons {checked : CheckedField} {rest : List CheckedField} {data : WireObject}
    {α : Type} {make : checked.field.codec.Value → Except ValidationError α}
    (hrest : ∀ value, Decides rest data (make value)) :
    Decides (checked :: rest) data
      (checked.field.validate (checked.candidate data) >>= make) := by
  unfold Decides firstRefusal?
  rw [List.findSome?_cons]
  cases hrefusal : checked.refusal? data with
  | some e =>
      rw [refusal?_eq_some_iff.1 hrefusal]
      rfl
  | none =>
      obtain ⟨value, hvalue⟩ := refusal?_eq_none_iff.1 hrefusal
      rw [hvalue]
      exact hrest value

end CheckedField

namespace NestedKind

/-- The fields of the objects of a kind. -/
def fields : NestedKind → List ScalarField
  | .permissionOverwrite =>
      [PermissionOverwrite.allowField, PermissionOverwrite.denyField,
        PermissionOverwrite.targetIdField, PermissionOverwrite.targetTypeField]
  | .role => [PartialRole.idField, PartialRole.nameField]
  | .forumTag =>
      [ForumTag.emojiIdField, ForumTag.emojiNameField, ForumTag.idField,
        ForumTag.moderatedField, ForumTag.nameField]

theorem map_field_attributes (kind : NestedKind) (item : kind.Item) :
    (kind.attributes item).map (·.field) = kind.fields := by
  cases kind <;> rfl

/-- The fields that are validated, in the order in which they are. -/
def checkedFields : NestedKind → List CheckedField
  | .permissionOverwrite =>
      [⟨PermissionOverwrite.allowField, .integer 0⟩, ⟨PermissionOverwrite.denyField, .integer 0⟩,
        ⟨PermissionOverwrite.targetIdField, .null⟩, ⟨PermissionOverwrite.targetTypeField, .null⟩]
  | .role => [⟨PartialRole.idField, .null⟩, ⟨PartialRole.nameField, .null⟩]
  | .forumTag =>
      [⟨ForumTag.emojiIdField, .null⟩, ⟨ForumTag.emojiNameField, .null⟩, ⟨ForumTag.idField, .null⟩,
        ⟨ForumTag.nameField, .null⟩]

/-- All fields of an object are validated but for one of forum tags. -/
theorem map_field_checkedFields (kind : NestedKind) :
    kind.checkedFields.map (·.field) =
      kind.fields.filter fun field => field ≠ ForumTag.moderatedField := by
  cases kind <;> decide

theorem exists_checkedField_iff {kind : NestedKind} {field : ScalarField} :
    (∃ checked ∈ kind.checkedFields, checked.field = field) ↔
      field ∈ kind.fields ∧ field ≠ ForumTag.moderatedField := by
  rw [← List.mem_map, map_field_checkedFields, List.mem_filter, decide_eq_true_iff]

theorem decides_validate (kind : NestedKind) (data : WireObject) :
    CheckedField.Decides kind.checkedFields data (kind.validate data) := by
  open CheckedField in
  cases kind with
  | permissionOverwrite =>
      exact decides_cons fun _ => decides_cons fun _ => decides_cons fun _ =>
        decides_cons fun _ => decides_nil data _
  | role => exact decides_cons fun _ => decides_cons fun _ => decides_nil data _
  | forumTag =>
      exact decides_cons fun _ => decides_cons fun _ => decides_cons fun _ =>
        decides_cons fun _ => decides_nil data _

/-- Validation is reading, unless a field refuses its member. -/
theorem validate_eq (kind : NestedKind) (data : WireObject) :
    kind.validate data = match CheckedField.firstRefusal? kind.checkedFields data with
      | none => .ok (kind.ofWire data)
      | some e => .error e := by
  have hdecides := kind.decides_validate data
  unfold CheckedField.Decides at hdecides
  split at hdecides
  · obtain ⟨item, hvalid⟩ := hdecides
    rw [hvalid, ofWire_of_validate hvalid]
  · exact hdecides

/-- An object is valid if and only if none of the validated fields refuses its member. -/
theorem exists_validate_iff {kind : NestedKind} {data : WireObject} :
    (∃ item, kind.validate data = .ok item) ↔ ∀ checked ∈ kind.checkedFields,
      ∃ value, checked.field.validate (checked.candidate data) = .ok value := by
  have hnone : CheckedField.firstRefusal? kind.checkedFields data = none ↔
      ∀ checked ∈ kind.checkedFields,
        ∃ value, checked.field.validate (checked.candidate data) = .ok value := by
    simp only [CheckedField.firstRefusal?, List.findSome?_eq_none_iff,
      CheckedField.refusal?_eq_none_iff]
  rw [← hnone, validate_eq]
  cases CheckedField.firstRefusal? kind.checkedFields data <;> simp

end NestedKind

namespace Codec

/-- An array is accepted just if all its items are. -/
theorem exists_acceptItems_iff {α : Type} {accept : Candidate → Except Rejection α}
    {items : List Candidate} :
    (∃ values, acceptItems accept items = .ok values) ↔
      ∀ item ∈ items, ∃ value, accept item = .ok value := by
  simp only [acceptItems_eq_ok_iff]
  constructor
  · rintro ⟨values, hvalues⟩
    induction hvalues with
    | nil => exact List.forall_mem_nil _
    | cons hfirst _ ih => exact List.forall_mem_cons.2 ⟨⟨_, hfirst⟩, ih⟩
  · intro hitems
    induction items with
    | nil => exact ⟨[], .nil⟩
    | cons first rest ih =>
        rw [List.forall_mem_cons] at hitems
        obtain ⟨⟨head, hhead⟩, hrest⟩ := hitems
        obtain ⟨tail, htail⟩ := ih hrest
        exact ⟨head :: tail, .cons hhead htail⟩

theorem exists_acceptItemNested_iff {kind : NestedKind} {data : WireObject} :
    (∃ item, acceptItemNested kind (.domain (.object data)) = .ok item) ↔
      ∃ item, kind.validate data = .ok item := by
  constructor
  · rintro ⟨item, hitem⟩
    obtain ⟨members, hmembers, hvalid⟩ := acceptItemNested_eq_ok hitem
    exact ⟨item, Except.ok.inj hmembers ▸ hvalid⟩
  · rintro ⟨item, hvalid⟩
    exact ⟨item, by simp only [acceptItemNested, acceptItemObject, hvalid]⟩

/-- An array is accepted as a list of nested objects just if all its items are. -/
theorem exists_accept_nestedArray_iff {kind : NestedKind} {items : List Candidate} :
    (∃ value, (nestedArray kind).accept (.array items) = .ok value) ↔
      ∀ item ∈ items, ∃ value, acceptItemNested kind item = .ok value := by
  rw [← exists_acceptItems_iff]
  constructor
  · rintro ⟨value, hvalue⟩
    obtain ⟨accepted, haccepted, -⟩ := exists_of_map_eq_ok hvalue
    exact ⟨accepted, haccepted⟩
  · rintro ⟨accepted, haccepted⟩
    exact ⟨_, by simp only [accept, acceptNested, haccepted]; rfl⟩

/-- One invalid object makes an array invalid, whatever its other items are. -/
theorem accept_nestedArray_of_invalid {kind : NestedKind} {data : WireObject}
    {e : ValidationError} (hinvalid : kind.validate data = .error e) {items : List Candidate}
    (hmem : .domain (.object data) ∈ items) :
    ∃ rejection, (nestedArray kind).accept (.array items) = .error rejection := by
  cases haccept : (nestedArray kind).accept (.array items) with
  | error rejection => exact ⟨rejection, rfl⟩
  | ok value =>
      have hitem := exists_accept_nestedArray_iff.1 ⟨value, haccept⟩ _ hmem
      obtain ⟨item, hvalid⟩ := exists_acceptItemNested_iff.1 hitem
      rw [hinvalid] at hvalid
      contradiction

end Codec

namespace NestedKind

/-- Whether a field keeps its invalid members out: an object with one is invalid, and
so is every array that holds the object. -/
def KeepsOut (kind : NestedKind) (field : ScalarField) : Prop :=
  ∀ (data : WireObject) (raw : Json), data.get? field.key = some raw →
    (∃ e, field.validate (.ofJson raw) = .error e) →
      (∃ e, kind.validate data = .error e) ∧
        ∀ items, .domain (.object data) ∈ items →
          ∃ rejection, (Codec.nestedArray kind).accept (.array items) = .error rejection

theorem keepsOut_of_checked {kind : NestedKind} {checked : CheckedField}
    (hchecked : checked ∈ kind.checkedFields) : kind.KeepsOut checked.field := by
  intro data raw hraw hrefused
  have hcandidate : checked.candidate data = .ofJson raw := by
    rw [CheckedField.candidate, hraw, Option.elim_some]
  cases hvalid : kind.validate data with
  | ok item =>
      obtain ⟨value, hvalue⟩ := exists_validate_iff.1 ⟨item, hvalid⟩ checked hchecked
      obtain ⟨e, he⟩ := hrefused
      rw [hcandidate, he] at hvalue
      contradiction
  | error e => exact ⟨⟨e, rfl⟩, fun _ => Codec.accept_nestedArray_of_invalid hvalid⟩

theorem not_keepsOut_moderatedField :
    ¬ NestedKind.forumTag.KeepsOut ForumTag.moderatedField := by
  intro hkeeps
  obtain ⟨⟨e, he⟩, -⟩ := hkeeps [("moderated", .string "yes"), ("name", .string "a")]
    (.string "yes") rfl ⟨_, rfl⟩
  contradiction

/-- Every field keeps its invalid members out, except for the one that says whether a
forum tag is moderated. -/
theorem keepsOut_iff (kind : NestedKind) :
    (∀ field ∈ kind.fields, kind.KeepsOut field ↔ field ≠ ForumTag.moderatedField) ∧
    ∀ data, kind.validate data = match CheckedField.firstRefusal? kind.checkedFields data with
      | none => .ok (kind.ofWire data)
      | some e => .error e := by
  refine ⟨fun field hfield => ⟨?_, ?_⟩, kind.validate_eq⟩
  · rintro hkeeps rfl
    cases kind with
    | permissionOverwrite | role => exact absurd hfield (by decide)
    | forumTag => exact not_keepsOut_moderatedField hkeeps
  · intro hne
    obtain ⟨checked, hchecked, rfl⟩ := exists_checkedField_iff.2 ⟨hfield, hne⟩
    exact keepsOut_of_checked hchecked

/-- A tag without a name is refused, and so is an array in which it comes after a tag
with one. -/
theorem keepsOut_iff_empty_name :
    ForumTag.nameField ∈ NestedKind.forumTag.fields ∧
      (∃ e, ForumTag.nameField.validate (.ofJson (.string "")) = .error e) ∧
      (∃ e, NestedKind.forumTag.validate [("name", .string "")] = .error e) ∧
      ∃ rejection, (Codec.nestedArray .forumTag).accept (.array
        [.domain (.object [("name", .string "help")]), .domain (.object [("name", .string "")])]) =
          .error rejection := by
  have hfield : ForumTag.nameField ∈ NestedKind.forumTag.fields := by decide
  have hrefused : ∃ e, ForumTag.nameField.validate (.ofJson (.string "")) = .error e := ⟨_, rfl⟩
  obtain ⟨hinvalid, harray⟩ :=
    ((keepsOut_iff .forumTag).1 _ hfield).2 (by decide) [("name", .string "")] _ rfl hrefused
  exact ⟨hfield, hrefused, hinvalid, harray _ (by simp)⟩

/-- A text is refused as an answer to whether a tag is moderated, but a tag with that
answer is valid, and is taken for one that is not moderated. -/
theorem not_keepsOut_moderated :
    ForumTag.moderatedField.validate (.ofJson (.string "yes")) =
        .error ⟨"moderated", .kind .bool, "\"yes\" (str)"⟩ ∧
      NestedKind.forumTag.validate [("moderated", .string "yes"), ("name", .string "a")] =
        .ok ⟨none, none, none, false, "a"⟩ ∧
      ¬ NestedKind.forumTag.KeepsOut ForumTag.moderatedField :=
  ⟨rfl, rfl, not_keepsOut_moderatedField⟩

end NestedKind

end AuditFields
