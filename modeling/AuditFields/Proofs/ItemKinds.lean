/-
The kinds of the items of an array.  Items are looked at one after another, and the first
one that is refused decides how the array is refused.  So an item of a kind that is never
taken is reported as one only if no item before it breaks a condition, and wherever it
stands only if the codec has no condition on single items.
-/
import AuditFields.Proofs.DeclaredBounds

namespace AuditFields

/-- Why a candidate was refused, if it was. -/
def Rejection.ofResult? {α : Type} : Except Rejection α → Option Rejection
  | .ok _ => none
  | .error rejection => some rejection

@[simp] theorem Rejection.ofResult?_eq_some_iff {α : Type} {result : Except Rejection α}
    {rejection : Rejection} : ofResult? result = some rejection ↔ result = .error rejection := by
  cases result <;> simp [ofResult?]

theorem Rejection.ofResult?_eq_none_iff {α : Type} {result : Except Rejection α} :
    ofResult? result = none ↔ ∃ value, result = .ok value := by
  cases result <;> simp [ofResult?]

theorem error_constraint_ne_kind {α : Type} (condition : Constraint) (taken : InputKind) :
    (.error (.constraint condition) : Except Rejection α) ≠ .error (.kind taken) := by
  intro hrefused
  injection hrefused with hkind
  contradiction

theorem Bounds.check_ne_kind (bounds : Bounds) (measure : Measure) (n : Int) (taken : InputKind) :
    bounds.check measure n ≠ .error (.kind taken) := by
  rw [check]
  split
  · intro hrefused
    contradiction
  · exact error_constraint_ne_kind _ _

theorem unsigned64_ne_kind (n : Int) (taken : InputKind) :
    unsigned64 n ≠ .error (.kind taken) := by
  rw [unsigned64]
  split
  · intro hrefused
    contradiction
  · exact error_constraint_ne_kind _ _

namespace Candidate

/-- Whether a candidate is of a kind that may stand for an identifier. -/
def mayBeId : Candidate → Bool
  | .null | .integer _ | .string _ | .domain (.id _) => true
  | _ => false

def isObject : Candidate → Bool
  | .domain (.object _) => true
  | _ => false

theorem isObject_iff {candidate : Candidate} :
    candidate.isObject = true ↔ ∃ members, candidate = .domain (.object members) := by
  unfold isObject
  split <;> simp_all

end Candidate

namespace Codec

/-- Codecs that take arrays. -/
def TakesArrays : Codec → Prop
  | .scalar _ => False
  | .idArray _ _ | .stringArray _ _ _ | .stringSet _ | .objectArray _ | .nestedArray _ => True

/-- Whether an item of an array is of a kind that the codec takes, whatever its value. -/
def takesItem : Codec → Candidate → Bool
  | .scalar _, _ => false
  | .idArray _ _, item => item.mayBeId
  | .stringArray _ _ _, item | .stringSet _, item => item.asString?.isSome
  | .objectArray _, item | .nestedArray _, item => item.isObject

/-- Why an item of an array is refused, if it is. -/
def itemRefusal? : Codec → Candidate → Option Rejection
  | .scalar _, _ => none
  | .idArray space _, item => Rejection.ofResult? (@acceptSnowflake space item)
  | .stringArray _ maxLength _, item => Rejection.ofResult? (acceptItemText maxLength item)
  | .stringSet _, item => Rejection.ofResult? (acceptItemText none item)
  | .objectArray _, item => Rejection.ofResult? (acceptItemObject item)
  | .nestedArray kind, item => Rejection.ofResult? (acceptItemNested kind item)

/-- Whether an array is refused because of the kind of an item. -/
def RefusesKind (codec : Codec) (items : List Candidate) : Prop :=
  ∃ taken, codec.accept (.array items) = .error (.kind taken)

theorem acceptSnowflake_kind_iff {space : IdSpace} {item : Candidate} :
    (∃ taken, @acceptSnowflake space item = .error (.kind taken)) ↔ item.mayBeId = false := by
  unfold acceptSnowflake
  split
  · exact iff_of_false nofun nofun
  · refine iff_of_false ?_ nofun
    rintro ⟨taken, hrefused⟩
    exact unsigned64_ne_kind _ _ (eq_error_of_map_eq_error hrefused)
  · refine iff_of_false ?_ nofun
    rintro ⟨taken, hrefused⟩
    split at hrefused
    · exact error_constraint_ne_kind _ _ hrefused
    · exact unsigned64_ne_kind _ _ (eq_error_of_map_eq_error hrefused)
  · exact iff_of_false nofun nofun
  · exact iff_of_true ⟨_, rfl⟩ (by simp only [Candidate.mayBeId])

theorem acceptItemText_kind_iff {maxLength : Option Nat} {item : Candidate} :
    (∃ taken, acceptItemText maxLength item = .error (.kind taken)) ↔
      item.asString?.isSome = false := by
  unfold acceptItemText
  cases item.asString? with
  | none => exact iff_of_true ⟨_, rfl⟩ rfl
  | some s =>
      refine iff_of_false ?_ nofun
      rintro ⟨taken, hrefused⟩
      exact Bounds.check_ne_kind _ _ _ _ (eq_error_of_map_eq_error hrefused)

theorem acceptItemObject_kind_iff {item : Candidate} :
    (∃ taken, acceptItemObject item = .error (.kind taken)) ↔ item.isObject = false := by
  unfold acceptItemObject
  split
  · exact iff_of_false nofun nofun
  · exact iff_of_true ⟨_, rfl⟩ (by simp only [Candidate.isObject])

/-- An object that a member makes invalid is of the kind that is taken. -/
theorem acceptItemNested_kind_iff {kind : NestedKind} {item : Candidate} :
    (∃ taken, acceptItemNested kind item = .error (.kind taken)) ↔ item.isObject = false := by
  rw [← acceptItemObject_kind_iff]
  unfold acceptItemNested
  cases acceptItemObject item with
  | error rejection => simp only [Except.error.injEq]
  | ok members =>
      refine iff_of_false ?_ nofun
      rintro ⟨taken, hrefused⟩
      cases hvalid : kind.validate members with
      | error =>
          simp only [hvalid] at hrefused
          injection hrefused with hkind
          contradiction
      | ok =>
          simp only [hvalid] at hrefused
          contradiction

/-- The kind of an item is what it is refused for exactly if it is not taken. -/
theorem itemRefusal?_kind_iff {codec : Codec} (harray : codec.TakesArrays) {item : Candidate} :
    (∃ taken, codec.itemRefusal? item = some (.kind taken)) ↔ codec.takesItem item = false := by
  cases codec with
  | scalar => exact harray.elim
  | idArray =>
      simp only [itemRefusal?, Rejection.ofResult?_eq_some_iff]
      exact acceptSnowflake_kind_iff
  | stringArray | stringSet =>
      simp only [itemRefusal?, Rejection.ofResult?_eq_some_iff]
      exact acceptItemText_kind_iff
  | objectArray =>
      simp only [itemRefusal?, Rejection.ofResult?_eq_some_iff]
      exact acceptItemObject_kind_iff
  | nestedArray =>
      simp only [itemRefusal?, Rejection.ofResult?_eq_some_iff]
      exact acceptItemNested_kind_iff

/-- An array is refused as its first refused item is. -/
theorem acceptItems_eq_error_iff {α : Type} {accept : Candidate → Except Rejection α}
    {items : List Candidate} {rejection : Rejection} :
    acceptItems accept items = .error rejection ↔
      items.findSome? (fun item => Rejection.ofResult? (accept item)) = some rejection := by
  induction items with
  | nil => exact iff_of_false nofun nofun
  | cons item rest ih =>
      rw [acceptItems, List.findSome?_cons]
      cases accept item with
      | error => simp only [Rejection.ofResult?, Except.error.injEq, Option.some.injEq]
      | ok value =>
          rw [Rejection.ofResult?, ← ih]
          constructor
          · exact eq_error_of_map_eq_error
          · intro hrest
            rw [hrest]
            rfl

theorem map_check_ne_kind {α : Type} {bounds : Bounds} {measure : Measure} {n : Int}
    {make : Unit → α} {taken : InputKind} :
    (bounds.check measure n).map make ≠ .error (.kind taken) :=
  fun hrefused => Bounds.check_ne_kind _ _ _ _ (eq_error_of_map_eq_error hrefused)

theorem collectItems_ne_kind (items : List String) (taken : InputKind) :
    collectItems items ≠ .error (.kind taken) := by
  induction items with
  | nil =>
      intro hrefused
      contradiction
  | cons item rest ih =>
      rw [collectItems]
      split
      · exact error_constraint_ne_kind _ _
      · exact fun hrefused => ih (eq_error_of_map_eq_error hrefused)

/-- If what is made of the items breaks conditions only, then kinds are those of items. -/
theorem refusesKind_of_acceptItems {codec : Codec} {α : Type}
    {acceptItem : Candidate → Except Rejection α} {items : List Candidate}
    (hrefusal : ∀ item, codec.itemRefusal? item = Rejection.ofResult? (acceptItem item))
    (herror : ∀ rejection, acceptItems acceptItem items = .error rejection →
      codec.accept (.array items) = .error rejection)
    (hok : ∀ values taken, acceptItems acceptItem items = .ok values →
      codec.accept (.array items) ≠ .error (.kind taken)) :
    codec.RefusesKind items ↔
      ∃ taken, items.findSome? codec.itemRefusal? = some (.kind taken) := by
  simp only [RefusesKind, funext hrefusal, ← acceptItems_eq_error_iff]
  cases hitems : acceptItems acceptItem items with
  | error rejection => simp only [herror rejection hitems, Except.error.injEq]
  | ok values =>
      refine iff_of_false ?_ nofun
      rintro ⟨taken, hrefused⟩
      exact hok values taken hitems hrefused

theorem acceptTextSet_array_ne_kind {maxLength : Option Nat} {items : List Candidate}
    {strings : List String} (hitems : acceptItems (acceptItemText none) items = .ok strings)
    (taken : InputKind) : acceptTextSet maxLength (.array items) ≠ .error (.kind taken) := by
  intro hrefused
  simp only [acceptTextSet, acceptSetItems, hitems] at hrefused
  cases hcollect : collectItems strings with
  | error rejection =>
      rw [hcollect] at hrefused
      obtain rfl : rejection = .kind taken := Except.error.inj hrefused
      exact collectItems_ne_kind strings taken hcollect
  | ok collected =>
      simp only [hcollect] at hrefused
      split at hrefused
      · contradiction
      · exact map_check_ne_kind hrefused

/-- The size of an array and what is made of its items are looked at last. -/
theorem refusesKind_iff_findSome? {codec : Codec} (harray : codec.TakesArrays)
    {items : List Candidate} :
    codec.RefusesKind items ↔ ∃ taken, items.findSome? codec.itemRefusal? = some (.kind taken) := by
  cases codec with
  | scalar => exact harray.elim
  | idArray space maxItems =>
      refine refusesKind_of_acceptItems (fun _ => rfl) ?_ ?_
      · intro rejection hitems
        simp only [accept, acceptIds, hitems]
      · intro ids taken hitems
        simp only [accept, acceptIds, hitems]
        exact map_check_ne_kind
  | stringArray =>
      refine refusesKind_of_acceptItems (fun _ => rfl) ?_ ?_
      · intro rejection hitems
        simp only [accept, acceptStrings, hitems]
      · intro strings taken hitems
        simp only [accept, acceptStrings, hitems]
        exact map_check_ne_kind
  | stringSet =>
      refine refusesKind_of_acceptItems (fun _ => rfl) ?_ ?_
      · intro rejection hitems
        simp only [accept, acceptTextSet, acceptSetItems, hitems]
      · intro strings taken hitems
        exact acceptTextSet_array_ne_kind hitems taken
  | objectArray =>
      refine refusesKind_of_acceptItems (fun _ => rfl) ?_ ?_
      · intro rejection hitems
        simp only [accept, acceptObjects, hitems]
      · intro objects taken hitems
        simp only [accept, acceptObjects, hitems]
        exact map_check_ne_kind
  | nestedArray =>
      refine refusesKind_of_acceptItems (fun _ => rfl) ?_ ?_
      · intro rejection hitems
        simp only [accept, acceptNested, hitems, Except.map]
      · intro values taken hitems
        simp only [accept, acceptNested, hitems, Except.map]
        intro hrefused
        contradiction

/-- Arrays with an item of a kind that is not taken are refused for it, wherever the
item stands and whatever else is wrong. -/
structure TypesFirst (codec : Codec) : Prop where
  refusesKind : ∀ {items : List Candidate}, (∃ item ∈ items, codec.takesItem item = false) →
    codec.RefusesKind items
  refusesKind_perm : ∀ {items order : List Candidate}, items.Perm order →
    (codec.RefusesKind items ↔ codec.RefusesKind order)

/-- Codecs that put no condition on a single item. -/
def ChecksNoItem : Codec → Prop
  | .stringArray _ maxLength _ => maxLength = none
  | .scalar _ | .stringSet _ | .objectArray _ => True
  | .idArray _ _ | .nestedArray _ => False

/-- These are the codecs that take every item of a kind that they take at all. -/
theorem checksNoItem_iff {codec : Codec} (harray : codec.TakesArrays) :
    codec.ChecksNoItem ↔ ∀ item, codec.takesItem item = true → codec.itemRefusal? item = none := by
  constructor
  · intro hchecks item htakes
    cases codec with
    | scalar => exact harray.elim
    | idArray | nestedArray => exact hchecks.elim
    | stringArray empties maxLength maxItems =>
        obtain rfl : maxLength = none := hchecks
        obtain ⟨s, hs⟩ := Option.isSome_iff_exists.1 htakes
        exact Rejection.ofResult?_eq_none_iff.2 ⟨s, by rw [acceptItemText, hs]; rfl⟩
    | stringSet =>
        obtain ⟨s, hs⟩ := Option.isSome_iff_exists.1 htakes
        exact Rejection.ofResult?_eq_none_iff.2 ⟨s, by rw [acceptItemText, hs]; rfl⟩
    | objectArray =>
        obtain ⟨members, rfl⟩ := Candidate.isObject_iff.1 htakes
        rfl
  · intro hall
    cases codec with
    | scalar | stringSet | objectArray => trivial
    | idArray => exact nomatch hall (.integer (-1)) rfl
    | stringArray empties maxLength maxItems =>
        cases maxLength with
        | none => rfl
        | some limit =>
            have hlong := hall (.string (String.ofList (List.replicate (limit + 1) 'a'))) rfl
            obtain ⟨s, hs⟩ := Rejection.ofResult?_eq_none_iff.1 hlong
            obtain ⟨hwithin, -⟩ := Bounds.map_check_eq_ok_iff.1 hs
            rw [Bounds.contains_upTo_some, decide_eq_true_eq, String.length_ofList,
              List.length_replicate] at hwithin
            omega
    | nestedArray kind =>
        have hobject := hall (.domain (.object [("id", .bool true)])) rfl
        cases kind <;> exact nomatch hobject

/-- Then items of other kinds are all that an array is refused for as one of them. -/
theorem refusesKind_iff_exists {codec : Codec} (harray : codec.TakesArrays)
    (hchecks : codec.ChecksNoItem) {items : List Candidate} :
    codec.RefusesKind items ↔ ∃ item ∈ items, codec.takesItem item = false := by
  have htakes {item : Candidate} {rejection : Rejection}
      (hrefused : codec.itemRefusal? item = some rejection) : codec.takesItem item = false := by
    rw [← Bool.not_eq_true]
    intro htaken
    rw [(checksNoItem_iff harray).1 hchecks item htaken] at hrefused
    contradiction
  rw [refusesKind_iff_findSome? harray]
  constructor
  · rintro ⟨taken, hfound⟩
    obtain ⟨item, hitem, hrefused⟩ := List.exists_of_findSome?_eq_some hfound
    exact ⟨item, hitem, htakes hrefused⟩
  · rintro ⟨item, hitem, hother⟩
    obtain ⟨taken, hrefused⟩ := (itemRefusal?_kind_iff harray).2 hother
    have hsome : (items.findSome? codec.itemRefusal?).isSome :=
      List.findSome?_isSome_iff.2 ⟨item, hitem, Option.isSome_of_eq_some hrefused⟩
    obtain ⟨rejection, hfound⟩ := Option.isSome_iff_exists.1 hsome
    obtain ⟨first, -, hfirst⟩ := List.exists_of_findSome?_eq_some hfound
    obtain ⟨taken, hkind⟩ := (itemRefusal?_kind_iff harray).2 (htakes hfirst)
    exact ⟨taken, hfound.trans (hfirst.symm.trans hkind)⟩

theorem typesFirst_of_checksNoItem {codec : Codec} (harray : codec.TakesArrays)
    (hchecks : codec.ChecksNoItem) : codec.TypesFirst where
  refusesKind := (refusesKind_iff_exists harray hchecks).2
  refusesKind_perm horder := by
    simp only [refusesKind_iff_exists harray hchecks, horder.mem_iff]

/-- An item that breaks a condition hides those of other kinds after it. -/
theorem itemRefusal?_eq_none_of_typesFirst {codec : Codec} (harray : codec.TakesArrays)
    (hfirst : codec.TypesFirst) {item : Candidate} (htakes : codec.takesItem item = true) :
    codec.itemRefusal? item = none := by
  cases hitem : codec.itemRefusal? item with
  | none => rfl
  | some rejection =>
      have hother : codec.takesItem (.bool true) = false := by cases codec <;> rfl
      obtain ⟨taken, hfound⟩ := (refusesKind_iff_findSome? harray).1
        (@hfirst.refusesKind [item, .bool true] ⟨.bool true, by simp, hother⟩)
      rw [List.findSome?_cons, hitem] at hfound
      have hkind := (itemRefusal?_kind_iff harray).1 ⟨taken, hitem.trans hfound⟩
      rw [htakes] at hkind
      contradiction

/-- Items of other kinds are reported as such wherever they stand, exactly if the codec has
no condition on single items.  In general they are if every item before them is accepted. -/
theorem typesFirst_iff {codec : Codec} (harray : codec.TakesArrays) :
    (codec.TypesFirst ↔ codec.ChecksNoItem) ∧
      ∀ items, codec.RefusesKind items ↔
        ∃ before item after, items = before ++ item :: after ∧ codec.takesItem item = false ∧
          ∀ earlier ∈ before, codec.itemRefusal? earlier = none := by
  refine ⟨⟨?_, typesFirst_of_checksNoItem harray⟩, ?_⟩
  · intro hfirst
    exact (checksNoItem_iff harray).2 fun _ => itemRefusal?_eq_none_of_typesFirst harray hfirst
  intro items
  simp only [refusesKind_iff_findSome? harray, List.findSome?_eq_some_iff,
    ← itemRefusal?_kind_iff harray]
  constructor
  · rintro ⟨taken, before, item, after, hitems, hitem, hbefore⟩
    exact ⟨before, item, after, hitems, ⟨taken, hitem⟩, hbefore⟩
  · rintro ⟨before, item, after, hitems, ⟨taken, hitem⟩, hbefore⟩
    exact ⟨taken, before, item, after, hitems, hitem, hbefore⟩

/-- A switch among identifiers is reported after one that is read and an unset one, although
the last item is no identifier either. -/
theorem typesFirst_iff_switch :
    (idArray .role none).TakesArrays ∧ ¬ (idArray .role none).TypesFirst ∧
      (idArray .role none).RefusesKind [.string "3", .null, .bool true, .integer (-1)] := by
  have harray : (idArray .role none).TakesArrays := trivial
  refine ⟨harray, (typesFirst_iff harray).1.1, ?_⟩
  refine ((typesFirst_iff harray).2 _).2
    ⟨[.string "3", .null], .bool true, [.integer (-1)], rfl, rfl, ?_⟩
  simp only [List.forall_mem_cons]
  exact ⟨rfl, rfl, nofun⟩

/-- A text of four characters where three are allowed hides the number after it. -/
theorem not_typesFirst_long_text :
    (stringArray .unset (some 3) none).takesItem (.integer 5) = false ∧
      (stringArray .unset (some 3) none).accept (.array [.string "abcd", .integer 5]) =
        .error (.constraint (.within (.atMost 3) .characters)) ∧
      (stringArray .unset (some 3) none).accept (.array [.integer 5, .string "abcd"]) =
        .error (.kind .textList) ∧
      ¬ (stringArray .unset (some 3) none).TypesFirst := by
  refine ⟨rfl, rfl, rfl, ?_⟩
  intro hfirst
  obtain ⟨taken, hrefused⟩ := @hfirst.refusesKind [.string "abcd", .integer 5]
    ⟨.integer 5, by simp, rfl⟩
  exact nomatch Except.error.inj hrefused

end Codec

end AuditFields
