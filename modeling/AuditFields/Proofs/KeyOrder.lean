/-
Objects in key order.  Setting a member keeps the members of an object in ascending
order of their keys, so that an object has each key once and two objects with the same
members are equal.
-/
import AuditFields.Json.Basic

namespace AuditFields.WireObject

/-- The members stand in ascending order of their keys. -/
def IsAscending (object : WireObject) : Prop :=
  object.Pairwise fun a b => a.1 < b.1

theorem mem_of_mem_insert {key : String} {value : Json} {object : WireObject}
    {member : String × Json} (hmem : member ∈ object.insert key value) :
    member = (key, value) ∨ member ∈ object := by
  induction object with
  | nil => exact Or.inl (List.mem_singleton.1 hmem)
  | cons first rest ih =>
      obtain ⟨k, old⟩ := first
      unfold insert at hmem
      by_cases heq : key = k
      · rw [if_pos heq, List.mem_cons] at hmem
        exact hmem.imp_right (List.mem_cons_of_mem _)
      · rw [if_neg heq] at hmem
        by_cases hlt : key < k
        · rwa [if_pos hlt, List.mem_cons] at hmem
        · rw [if_neg hlt, List.mem_cons] at hmem
          rcases hmem with rfl | hmem
          · exact Or.inr List.mem_cons_self
          · exact (ih hmem).imp_right (List.mem_cons_of_mem _)

theorem isAscending_insert (key : String) (value : Json) {object : WireObject}
    (hobject : IsAscending object) : IsAscending (object.insert key value) := by
  induction object with
  | nil => exact List.pairwise_singleton _ _
  | cons first rest ih =>
      obtain ⟨k, old⟩ := first
      obtain ⟨hfirst, hrest⟩ := List.pairwise_cons.1 hobject
      rcases Std.lt_trichotomy key k with hlt | rfl | hgt
      · rw [insert, if_neg (String.ne_of_lt hlt), if_pos hlt]
        refine List.pairwise_cons.2 ⟨?_, hobject⟩
        intro member hmem
        rcases List.mem_cons.1 hmem with rfl | hmem
        · exact hlt
        · exact String.lt_trans hlt (hfirst member hmem)
      · rw [insert, if_pos rfl]
        exact List.pairwise_cons.2 ⟨hfirst, hrest⟩
      · rw [insert, if_neg (String.ne_of_lt hgt).symm, if_neg (String.lt_asymm hgt)]
        refine List.pairwise_cons.2 ⟨?_, ih hrest⟩
        intro member hmem
        rcases mem_of_mem_insert hmem with rfl | hmem
        · exact hgt
        · exact hfirst member hmem

/-- A key of an object in key order has one member. -/
theorem nodup_keys {object : WireObject} (hobject : IsAscending object) :
    (object.map Prod.fst).Nodup :=
  List.pairwise_map.2 (hobject.imp String.ne_of_lt)

theorem mem_of_get?_eq_some {key : String} {value : Json} {object : WireObject}
    (hvalue : object.get? key = some value) : (key, value) ∈ object := by
  induction object with
  | nil => contradiction
  | cons first rest ih =>
      obtain ⟨k, old⟩ := first
      rw [get?] at hvalue
      split at hvalue
      · rename_i heq
        rw [← heq, ← Option.some.inj hvalue]
        exact List.mem_cons_self
      · exact List.mem_cons_of_mem _ (ih hvalue)

theorem get?_eq_some_iff {object : WireObject} (hobject : IsAscending object) {key : String}
    {value : Json} : object.get? key = some value ↔ (key, value) ∈ object := by
  refine ⟨mem_of_get?_eq_some, fun hmem => ?_⟩
  induction object with
  | nil => contradiction
  | cons first rest ih =>
      obtain ⟨k, old⟩ := first
      obtain ⟨hfirst, hrest⟩ := List.pairwise_cons.1 hobject
      rw [get?]
      rcases List.mem_cons.1 hmem with heq | hmem
      · rw [Prod.mk.injEq] at heq
        rw [if_pos heq.1.symm, heq.2]
      · rw [if_neg (String.ne_of_lt (hfirst _ hmem)), ih hrest hmem]

theorem mem_keys_iff {key : String} {object : WireObject} :
    key ∈ object.map Prod.fst ↔ object.get? key ≠ none := by
  induction object with
  | nil => simp [get?]
  | cons first rest ih =>
      obtain ⟨k, old⟩ := first
      by_cases heq : k = key
      · simp [get?, heq]
      · rw [List.map_cons, List.mem_cons, ih, get?, if_neg heq]
        exact or_iff_right (Ne.symm heq)

/-- Objects in key order that hold the same members are equal. -/
theorem ext_of_isAscending {a b : WireObject} (ha : IsAscending a) (hb : IsAscending b)
    (hmembers : ∀ key, a.get? key = b.get? key) : a = b := by
  have hmem : ∀ member, member ∈ a ↔ member ∈ b := by
    rintro ⟨key, value⟩
    rw [← get?_eq_some_iff ha, ← get?_eq_some_iff hb, hmembers]
  have hnodup : ∀ {object : WireObject}, IsAscending object → object.Nodup :=
    fun hobject => hobject.imp fun hlt heq => String.ne_of_lt hlt (congrArg Prod.fst heq)
  have hperm := (List.perm_ext_iff_of_nodup (hnodup ha) (hnodup hb)).2 hmem
  exact hperm.eq_of_pairwise (fun _ _ _ _ hlt hgt => absurd hgt (String.lt_asymm hlt)) ha hb

/-- Dropping members by their keys. -/
theorem get?_filter (keep : String → Bool) (object : WireObject) (key : String) :
    get? key (object.filter fun member => keep member.1) =
      if keep key then object.get? key else none := by
  induction object with
  | nil => exact (ite_self none).symm
  | cons first rest ih =>
      obtain ⟨k, value⟩ := first
      by_cases heq : k = key
      · subst heq
        cases hkeep : keep k <;> simp [hkeep, get?, ih]
      · cases hkeep : keep k <;> simp [hkeep, get?, heq, ih]

theorem isAscending_filter (keep : String × Json → Bool) {object : WireObject}
    (hobject : IsAscending object) : IsAscending (object.filter keep) :=
  hobject.filter keep

end AuditFields.WireObject
