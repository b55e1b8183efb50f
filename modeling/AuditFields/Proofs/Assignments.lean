/-
Writing several attributes into one object.  An assignment sets the member of its
own key where that is needed and changes nothing else, so that assignments under
different keys do not disturb each other and their order does not show.
-/
import AuditFields.Proofs.FieldWriting

namespace AuditFields

/-- The value of an attribute on its way into an object. -/
structure Assignment where
  field : Field
  value : field.codec.Value
  withDefaults : Bool

namespace Assignment

/-- Whether the member is written: defaults are wanted, the codec always writes, or
the value is another than the one that an absent member stands for. -/
def IsWritten (a : Assignment) : Prop :=
  a.withDefaults = true ∨ a.field.codec.alwaysWritten = true ∨
    a.value ≠ a.field.codec.decode none

instance (a : Assignment) : Decidable a.IsWritten :=
  inferInstanceAs (Decidable (_ ∨ _ ∨ _))

/-- Put the attribute into an object. -/
def put (a : Assignment) (data : WireObject) : WireObject :=
  a.field.put a.value a.withDefaults data

/-- Put attributes into an object, the first one first. -/
def putAll (assignments : List Assignment) (data : WireObject) : WireObject :=
  assignments.foldl (fun data a => a.put data) data

theorem put_eq (a : Assignment) (data : WireObject) :
    a.put data =
      if a.IsWritten then data.insert a.field.key (a.field.codec.encode a.value) else data := by
  have hwritten : (a.withDefaults || a.field.codec.alwaysWritten ||
      !a.field.codec.isDefault a.value) = true ↔ a.IsWritten := by
    simp only [IsWritten, Bool.or_eq_true, or_assoc, Bool.not_eq_true', ne_eq,
      ← Codec.isDefault_iff, Bool.not_eq_true]
  simp only [put, Field.put, hwritten]

theorem get?_put_of_ne (a : Assignment) {other : String} (hne : other ≠ a.field.key)
    (data : WireObject) : (a.put data).get? other = data.get? other :=
  a.field.get?_put_of_ne hne a.value a.withDefaults data

theorem get?_put_self (a : Assignment) (data : WireObject) :
    (a.put data).get? a.field.key =
      if a.IsWritten then some (a.field.codec.encode a.value) else data.get? a.field.key := by
  rw [put_eq]
  split
  · exact WireObject.get?_insert_self _ _ _
  · rfl

/-- Putting an attribute twice is putting it once. -/
theorem put_put (a : Assignment) (data : WireObject) : a.put (a.put data) = a.put data := by
  by_cases hwritten : a.IsWritten
  · simp only [put_eq, if_pos hwritten, WireObject.insert_insert_self]
  · simp only [put_eq, if_neg hwritten]

/-- Attributes under different keys can be put in either order. -/
theorem put_comm {a b : Assignment} (hkeys : a.field.key ≠ b.field.key) (data : WireObject) :
    b.put (a.put data) = a.put (b.put data) := by
  rw [put_eq a, put_eq b, put_eq b, put_eq a]
  split
  · split
    · exact WireObject.insert_comm hkeys _ _ data
    · rfl
  · split <;> rfl

theorem get?_putAll_of_notMem {key : String} {assignments : List Assignment}
    (hkey : key ∉ assignments.map (·.field.key)) (data : WireObject) :
    (putAll assignments data).get? key = data.get? key := by
  induction assignments generalizing data with
  | nil => rfl
  | cons first rest ih =>
      rw [List.map_cons, List.mem_cons, not_or] at hkey
      calc (putAll rest (first.put data)).get? key
          = (first.put data).get? key := ih hkey.2 _
        _ = data.get? key := first.get?_put_of_ne hkey.1 data

/-- The member of an attribute is what putting that attribute alone makes of it. -/
theorem get?_putAll {assignments : List Assignment}
    (hkeys : (assignments.map (·.field.key)).Nodup) {a : Assignment} (hmem : a ∈ assignments)
    (data : WireObject) :
    (putAll assignments data).get? a.field.key = (a.put data).get? a.field.key := by
  induction assignments generalizing data with
  | nil => contradiction
  | cons first rest ih =>
      rw [List.map_cons, List.nodup_cons] at hkeys
      rcases List.mem_cons.1 hmem with rfl | hrest
      · exact get?_putAll_of_notMem hkeys.1 _
      · have hne : a.field.key ≠ first.field.key := by
          intro heq
          exact hkeys.1 (heq ▸ List.mem_map_of_mem hrest)
        calc (putAll rest (first.put data)).get? a.field.key
            = (a.put (first.put data)).get? a.field.key := ih hkeys.2 hrest _
          _ = (a.put data).get? a.field.key := by
              rw [get?_put_self, get?_put_self, first.get?_put_of_ne hne]

/-- Attributes under different keys can be put in any order. -/
theorem putAll_perm {assignments order : List Assignment} (horder : order.Perm assignments)
    (hkeys : (assignments.map (·.field.key)).Nodup) (data : WireObject) :
    putAll order data = putAll assignments data := by
  have hdistinct := List.pairwise_map.1 hkeys
  have hcomm := List.Pairwise.forall_of_forall_of_flip
    (R := fun a b : Assignment => ∀ data, b.put (a.put data) = a.put (b.put data))
    (fun _ _ _ => rfl) (hdistinct.imp put_comm)
    (hdistinct.imp fun hne data => (put_comm hne data).symm)
  exact (horder.symm.foldl_eq' (fun a ha b hb data => hcomm ha hb data) data).symm

/-- Putting an attribute sets the member of its key where that is needed, whatever the
member was before, and changes nothing else. -/
structure SetsKeyIfNeeded (a : Assignment) (data : WireObject) : Prop where
  others_kept : ∀ other, other ≠ a.field.key → (a.put data).get? other = data.get? other
  written : a.IsWritten → (a.put data).get? a.field.key = some (a.field.codec.encode a.value)
  untouched : ¬ a.IsWritten → a.put data = data
  again : a.put (a.put data) = a.put data

/-- What an object that was made of assignments holds of one of them. -/
structure IsKeptIn (a : Assignment) (object : WireObject) : Prop where
  written : a.IsWritten → object.get? a.field.key = some (a.field.codec.encode a.value) ∧
    a.field.parse object = a.field.codec.decode (some (a.field.codec.encode a.value))
  omitted : ¬ a.IsWritten → object.get? a.field.key = none ∧
    a.field.parse object = a.field.codec.decode none ∧ a.field.codec.decode none = a.value

theorem setsKeyIfNeeded (a : Assignment) (data : WireObject) : a.SetsKeyIfNeeded data where
  others_kept := fun _ hne => a.get?_put_of_ne hne data
  written := fun hwritten => by rw [get?_put_self, if_pos hwritten]
  untouched := fun hwritten => by rw [put_eq, if_neg hwritten]
  again := a.put_put data

theorem isKeptIn_putAll {assignments : List Assignment}
    (hkeys : (assignments.map (·.field.key)).Nodup) {a : Assignment} (hmem : a ∈ assignments) :
    a.IsKeptIn (putAll assignments []) := by
  have hmember := get?_putAll hkeys hmem []
  rw [get?_put_self] at hmember
  constructor
  · intro hwritten
    rw [if_pos hwritten] at hmember
    exact ⟨hmember, congrArg a.field.codec.decode hmember⟩
  · intro hwritten
    rw [if_neg hwritten] at hmember
    refine ⟨hmember, congrArg a.field.codec.decode hmember, ?_⟩
    exact (Decidable.not_not.1 fun hne => hwritten (Or.inr (Or.inr hne))).symm

/-- Putting sets a key if that is needed: if defaults are wanted, if the codec always
writes, or if the value is not the default, which is what an absent member is read as.
So attributes with different keys make one object in whatever order they are put into
an empty one, and each of them is read from there as its wire form is read, or as the
default that it is. -/
theorem put_sets_key_if_needed :
    (∀ (a : Assignment) (data : WireObject), a.SetsKeyIfNeeded data) ∧
      (∀ (codec : Codec) (value : codec.Value),
        codec.isDefault value = true ↔ value = codec.decode none) ∧
        ∀ assignments : List Assignment, (assignments.map (·.field.key)).Nodup →
          (∀ order : List Assignment, order.Perm assignments →
            putAll order [] = putAll assignments []) ∧
            ∀ a ∈ assignments, a.IsKeptIn (putAll assignments []) := by
  refine ⟨setsKeyIfNeeded, Codec.isDefault_iff, ?_⟩
  intro assignments hkeys
  constructor
  · intro order horder
    exact putAll_perm horder hkeys []
  · intro a hmem
    exact isKeptIn_putAll hkeys hmem

/-- A name that is always written, a colour, and a position that is the default and so
left out, in two orders. -/
theorem put_sets_key_if_needed_position :
    let name : Assignment := ⟨.named "name" (.text "" (.atMost 100) true), "", false⟩
    let color : Assignment := ⟨.named "color" .color, ⟨0, 1, 0⟩, false⟩
    let position : Assignment := ⟨.named "position" (.int 0 .unbounded), (0 : Int64), false⟩
    putAll [name, color, position] [] = [("color", .ofInt 256 (by decide)), ("name", .string "")] ∧
      putAll [position, color, name] [] = putAll [name, color, position] [] ∧
      position.field.parse (putAll [name, color, position] []) = position.value := by
  intro name color position
  have hkeys : ([name, color, position].map (·.field.key)).Nodup := by decide
  have hwritten : ¬ position.IsWritten := by decide
  obtain ⟨horder, hkept⟩ := put_sets_key_if_needed.2.2 _ hkeys
  obtain ⟨-, hread, hvalue⟩ := (hkept position (by simp)).omitted hwritten
  refine ⟨by decide, horder _ ?_, hread.trans hvalue⟩
  exact List.reverse_perm [name, color, position]

end Assignment

end AuditFields
