/-
Strictly ascending lists.  Identifier lists, text sets and the members of an
object are kept in this form, so that equal contents have one representation.
-/

namespace AuditFields.Ascending

universe u

variable {α : Type u} [LT α] [DecidableLT α] [DecidableEq α]

/-- Put an element in its place.  An element already present is kept once. -/
def insert (a : α) : List α → List α
  | [] => [a]
  | b :: rest =>
      if a < b then a :: b :: rest
      else if a = b then b :: rest
      else b :: insert a rest

/-- The ascending list of the elements of a list. -/
def ofList (items : List α) : List α :=
  items.foldr insert []

theorem mem_insert {a x : α} (items : List α) :
    x ∈ insert a items ↔ x = a ∨ x ∈ items := by
  induction items with
  | nil => simp [insert]
  | cons b rest ih =>
      unfold insert
      by_cases hlt : a < b
      · simp [hlt]
      · by_cases heq : a = b
        · subst heq
          simp [hlt]
        · simp only [hlt, heq, if_false, List.mem_cons, ih]
          constructor
          · rintro (h | h | h)
            · exact Or.inr (Or.inl h)
            · exact Or.inl h
            · exact Or.inr (Or.inr h)
          · rintro (h | h | h)
            · exact Or.inr (Or.inl h)
            · exact Or.inl h
            · exact Or.inr (Or.inr h)

theorem mem_ofList {x : α} (items : List α) :
    x ∈ ofList items ↔ x ∈ items := by
  induction items with
  | nil => simp [ofList]
  | cons a rest ih =>
      have hstep : ofList (a :: rest) = insert a (ofList rest) := rfl
      rw [hstep, mem_insert, ih, List.mem_cons]

/-- Inserting keeps a list ascending whenever the order is transitive and
compares any two distinct elements. -/
theorem pairwise_insert
    (htrans : ∀ a b c : α, a < b → b < c → a < c)
    (htotal : ∀ a b : α, ¬ a < b → a ≠ b → b < a)
    (a : α) {items : List α} (hitems : items.Pairwise (· < ·)) :
    (insert a items).Pairwise (· < ·) := by
  induction items with
  | nil => simp [insert]
  | cons b rest ih =>
      rw [List.pairwise_cons] at hitems
      unfold insert
      by_cases hlt : a < b
      · rw [if_pos hlt, List.pairwise_cons, List.pairwise_cons]
        refine ⟨?_, hitems⟩
        intro x hx
        rcases List.mem_cons.1 hx with rfl | hx
        · exact hlt
        · exact htrans _ _ _ hlt (hitems.1 x hx)
      · rw [if_neg hlt]
        by_cases heq : a = b
        · rw [if_pos heq, List.pairwise_cons]
          exact hitems
        · rw [if_neg heq, List.pairwise_cons]
          refine ⟨?_, ih hitems.2⟩
          intro x hx
          rcases (mem_insert rest).1 hx with rfl | hx
          · exact htotal _ _ hlt heq
          · exact hitems.1 x hx

theorem pairwise_ofList
    (htrans : ∀ a b c : α, a < b → b < c → a < c)
    (htotal : ∀ a b : α, ¬ a < b → a ≠ b → b < a)
    (items : List α) : (ofList items).Pairwise (· < ·) := by
  induction items with
  | nil => simp [ofList]
  | cons a rest ih => exact pairwise_insert htrans htotal a ih

end AuditFields.Ascending
