/-
Edits of a role that is kept from one edit to the next.  A refused edit leaves the whole
role as it was, and an accepted one changes the value of its own field and no other.  So
whatever is attempted on a role that was blank or read, the role is read back from both of
its written forms.
-/
import AuditFields.Proofs.AcceptedValues
import AuditFields.Proofs.WrittenForms

namespace AuditFields.Role

/-- An attempt to edit an attribute. -/
structure Edit where
  attr : Attribute
  candidate : Candidate

/-- An edit as a step on a role that outlives a refusal.  The candidate is validated
before the role is touched. -/
def Edit.run (edit : Edit) : ExceptT ValidationError (StateM Role) Unit := do
  let value ← edit.attr.field.validate edit.candidate
  modify fun role => role.withAttribute edit.attr value

/-- The answer to an edit, and the role after it. -/
def edit (role : Role) (edit : Edit) : Except ValidationError Unit × Role :=
  Id.run (StateT.run (ExceptT.run edit.run) role)

/-- The role after a sequence of edits, accepted and refused ones. -/
def afterEdits (role : Role) (edits : List Edit) : Role :=
  edits.foldl (fun role edit => (role.edit edit).2) role

/-- The role of an object, or a blank one. -/
def ofOrigin : Option WireObject → Role
  | none => blank
  | some data => ofWire data

/-- All that an edit can do. -/
theorem edit_cases (role : Role) (edit : Edit) :
    (∃ e, edit.attr.field.validate edit.candidate = .error e ∧
        role.edit edit = (.error e, role)) ∨
      ∃ value, edit.attr.field.validate edit.candidate = .ok value ∧
        role.edit edit = (.ok (), role.withAttribute edit.attr value) := by
  unfold Role.edit Edit.run
  cases edit.attr.field.validate edit.candidate with
  | error e => exact Or.inl ⟨e, rfl, rfl⟩
  | ok value => exact Or.inr ⟨value, rfl, rfl⟩

/-- An edit of a kept role is the edit that gives a new role. -/
theorem edit_eq_set (role : Role) (edit : Edit) :
    role.edit edit = match role.set edit.attr edit.candidate with
      | .ok after => (.ok (), after)
      | .error e => (.error e, role) := by
  rcases role.edit_cases edit with ⟨e, hvalid, hedit⟩ | ⟨value, hvalid, hedit⟩
  · rw [hedit, set, hvalid]
    rfl
  · rw [hedit, set, hvalid]
    rfl

/-- Changing an attribute replaces the value of its field. -/
theorem values_withAttribute (role : Role) (attr : Attribute) (value : attr.field.codec.Value) :
    (role.withAttribute attr value).values =
      role.values.map fun v => if v.field = attr.field then ⟨attr.field, value⟩ else v := by
  cases attr <;> rfl

theorem Attribute.inspects (attr : Attribute) (candidate : Candidate) :
    attr.field.codec.Inspects candidate ∧ attr.field.codec ≠ .timestamp := by
  cases attr <;> exact ⟨trivial, by decide⟩

/-- An edit keeps a role normal: what is accepted is, and the rest stays as it was. -/
theorem isNormal_edit {role : Role} (hrole : role.IsNormal) (edit : Edit) :
    (role.edit edit).2.IsNormal := by
  rcases role.edit_cases edit with ⟨e, -, hedit⟩ | ⟨value, hvalid, hedit⟩
  · rw [hedit]
    exact hrole
  · obtain ⟨hinspects, hcodec⟩ := edit.attr.inspects edit.candidate
    have hvalue := Codec.isNormal_accept hcodec hinspects (Field.accept_of_validate hvalid)
    rw [hedit, IsNormal, values_withAttribute, List.forall_mem_map]
    intro v hmem
    split
    · exact hvalue
    · exact hrole v hmem

theorem isNormal_afterEdits {role : Role} (hrole : role.IsNormal) (edits : List Edit) :
    (role.afterEdits edits).IsNormal := by
  induction edits generalizing role with
  | nil => exact hrole
  | cons edit rest ih => exact ih (isNormal_edit hrole edit)

theorem isNormal_ofOrigin (origin : Option WireObject) : (ofOrigin origin).IsNormal := by
  cases origin with
  | none => exact isNormal_iff.2 nofun
  | some data => exact isNormal_ofWire data

/-- An edit either is refused, by the validation of its field, and changes nothing, or it
is accepted and gives its field, and no other, the validated value. -/
structure IsAtomic (role : Role) (edit : Edit) : Prop where
  eq_set : role.edit edit = match role.set edit.attr edit.candidate with
    | .ok after => (.ok (), after)
    | .error e => (.error e, role)
  refused : ∀ e, (role.edit edit).1 = .error e →
    edit.attr.field.validate edit.candidate = .error e ∧ (role.edit edit).2 = role
  accepted : (role.edit edit).1 = .ok () →
    ∃ value, edit.attr.field.validate edit.candidate = .ok value ∧
      (role.edit edit).2.values = role.values.map fun v =>
        if v.field = edit.attr.field then ⟨edit.attr.field, value⟩ else v

theorem isAtomic_edit (role : Role) (edit : Edit) : role.IsAtomic edit := by
  refine ⟨role.edit_eq_set edit, ?_, ?_⟩
  · intro e hrefused
    rcases role.edit_cases edit with ⟨other, hvalid, hedit⟩ | ⟨value, -, hedit⟩
    · rw [hedit] at hrefused ⊢
      obtain rfl := Except.error.inj hrefused
      exact ⟨hvalid, rfl⟩
    · rw [hedit] at hrefused
      contradiction
  · intro haccepted
    rcases role.edit_cases edit with ⟨other, -, hedit⟩ | ⟨value, hvalid, hedit⟩
    · rw [hedit] at haccepted
      contradiction
    · rw [hedit]
      exact ⟨value, hvalid, role.values_withAttribute edit.attr value⟩

/-- Whatever is attempted on a role, each edit of it is atomic, and the role is read back
from both of its written forms. -/
theorem edits_atomic_and_read_back (origin : Option WireObject) (edits : List Edit) :
    (∀ edit, ((ofOrigin origin).afterEdits edits).IsAtomic edit) ∧
      ∀ withDefaults, ofWire (((ofOrigin origin).afterEdits edits).toWire withDefaults) =
        (ofOrigin origin).afterEdits edits := by
  refine ⟨isAtomic_edit _, fun withDefaults => ?_⟩
  exact (@ObjectKind.ofWire_toWire_iff .role _ withDefaults).2
    (isNormal_afterEdits (isNormal_ofOrigin origin) edits)

/-- Roles cannot be moved below the first position, and stay where they are. -/
example :
    (blank.afterEdits [⟨.position, .integer 4⟩, ⟨.position, .integer (-1)⟩]).position = 4 := by
  decide

end AuditFields.Role
