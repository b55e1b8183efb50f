/-
Lists of identifiers as sets.  What is read from an array, and what validation makes of
a candidate, is the ascending list of the identifiers that the items name.  So it depends
on nothing but the set of these, except that a bound on the items counts an identifier
as often as it is repeated.
-/
import AuditFields.Proofs.SnowflakeReaders

namespace AuditFields

namespace Snowflake

variable {space : IdSpace}

/-- An item stands for no second identifier. -/
theorem eq_of_hasNumber {item : Candidate} {found other : Option (Snowflake space)}
    (hfound : item.HasNumber (number found)) (hother : item.HasNumber (number other)) :
    found = other := by
  have haccepted := acceptSnowflake_eq_ok_iff.2 hfound
  rw [acceptSnowflake_eq_ok_iff.2 hother] at haccepted
  exact (Except.ok.inj haccepted).symm

theorem lt_asymm {a b : Snowflake space} (hab : a < b) : ¬ b < a :=
  UInt64.lt_asymm hab

theorem nodup_of_pairwise {ids : List (Snowflake space)} (hids : ids.Pairwise (· < ·)) :
    ids.Nodup := by
  refine hids.imp ?_
  rintro a b hab rfl
  exact lt_asymm hab hab

/-- There is one ascending list of given identifiers. -/
theorem eq_of_pairwise_of_mem_iff {a b : List (Snowflake space)} (ha : a.Pairwise (· < ·))
    (hb : b.Pairwise (· < ·)) (hmem : ∀ id, id ∈ a ↔ id ∈ b) : a = b := by
  have hperm := (List.perm_ext_iff_of_nodup (nodup_of_pairwise ha) (nodup_of_pairwise hb)).2 hmem
  exact hperm.eq_of_pairwise (fun _ _ _ _ hlt hgt => absurd hgt (lt_asymm hlt)) ha hb

end Snowflake

namespace Candidate

variable {space : IdSpace}

/-- The identifiers of the items of an array, in order.  Items that stand for zero have none. -/
inductive ItemsList : List Candidate → List (Snowflake space) → Prop where
  | nil : ItemsList [] []
  | unset {item : Candidate} {rest : List Candidate} {ids : List (Snowflake space)} :
      item.HasNumber 0 → ItemsList rest ids → ItemsList (item :: rest) ids
  | named {item : Candidate} {rest : List Candidate} {id : Snowflake space}
      {ids : List (Snowflake space)} :
      item.HasNumber id.value → ItemsList rest ids → ItemsList (item :: rest) (id :: ids)

/-- Identifiers with all their repetitions, as an array or as a list of any space. -/
def Lists : Candidate → List (Snowflake space) → Prop
  | .array items, ids => ItemsList items ids
  | .domain (.ids given), ids => given.map Snowflake.cast = ids
  | _, _ => False

end Candidate

/-- The identifier is that of an item of an array, or of a list. -/
def Snowflake.IsNamedBy {space : IdSpace} (id : Snowflake space) : Candidate → Prop
  | .array items => ∃ item ∈ items, item.HasNumber id.value
  | .domain (.ids given) => ∃ other ∈ given, other.cast = id
  | _ => False

namespace Candidate

variable {space : IdSpace}

theorem ItemsList.mem_iff {items : List Candidate} {ids : List (Snowflake space)}
    (hids : ItemsList items ids) (id : Snowflake space) :
    id ∈ ids ↔ ∃ item ∈ items, item.HasNumber id.value := by
  induction hids with
  | nil => simp
  | @unset item rest ids hitem hrest ih =>
      have hother : ¬ item.HasNumber id.value := by
        intro hid
        have hsame : none = some id := Snowflake.eq_of_hasNumber hitem hid
        contradiction
      simp [ih, hother]
  | @named item rest first ids hitem hrest ih =>
      have hfirst : item.HasNumber id.value ↔ id = first := by
        constructor
        · intro hid
          have hsame : some id = some first := Snowflake.eq_of_hasNumber hid hitem
          exact Option.some.inj hsame
        · rintro rfl
          exact hitem
      simp [ih, hfirst]

theorem Lists.mem_iff {candidate : Candidate} {ids : List (Snowflake space)}
    (hids : candidate.Lists ids) (id : Snowflake space) : id ∈ ids ↔ id.IsNamedBy candidate := by
  unfold Lists at hids
  split at hids
  · exact hids.mem_iff id
  · subst hids
    exact List.mem_map
  · exact hids.elim

end Candidate

namespace Codec

variable {space : IdSpace} {maxItems : Option Nat}

/-- Items are accepted exactly if each stands for an identifier or for none. -/
theorem itemsList_iff {items : List Candidate} {ids : List (Snowflake space)} :
    Candidate.ItemsList items ids ↔
      ∃ found, acceptItems acceptSnowflake items = .ok found ∧
        found.filterMap (fun id => id) = ids := by
  simp only [acceptItems_eq_ok_iff]
  constructor
  · intro hids
    induction hids with
    | nil => exact ⟨[], .nil, rfl⟩
    | unset hitem _ ih =>
        obtain ⟨found, hrest, rfl⟩ := ih
        exact ⟨none :: found, .cons (Snowflake.acceptSnowflake_eq_ok_iff.2 hitem) hrest, rfl⟩
    | @named _ _ id _ hitem _ ih =>
        obtain ⟨found, hrest, rfl⟩ := ih
        have hfirst := (@Snowflake.acceptSnowflake_eq_ok_iff _ _ (some id)).2 hitem
        exact ⟨some id :: found, .cons hfirst hrest, rfl⟩
  · rintro ⟨found, hfound, rfl⟩
    induction hfound with
    | nil => exact .nil
    | @cons _ first _ _ hfirst _ ih =>
        have hitem := Snowflake.acceptSnowflake_eq_ok_iff.1 hfirst
        cases first with
        | none => exact .unset hitem ih
        | some id => exact .named hitem ih

/-- The identifiers are counted with their repetitions before they are sorted. -/
theorem acceptIds_of_lists {candidate : Candidate} {ids : List (Snowflake space)}
    (hids : candidate.Lists ids) :
    acceptIds maxItems candidate =
      (checkCount maxItems ids.length).map fun _ => normalizeIds ids := by
  unfold Candidate.Lists at hids
  split at hids
  · obtain ⟨found, hfound, rfl⟩ := itemsList_iff.1 hids
    simp only [acceptIds, hfound]
  · subst hids
    rfl
  · exact hids.elim

/-- What is accepted is unset, or else the list of some identifiers. -/
theorem null_or_lists_of_acceptIds {candidate : Candidate}
    {value : Option (List (Snowflake space))} (hvalue : acceptIds maxItems candidate = .ok value) :
    (candidate = .null ∧ value = none) ∨
      ∃ ids, candidate.Lists ids ∧ value = normalizeIds ids := by
  unfold acceptIds at hvalue
  split at hvalue
  · exact Or.inl ⟨rfl, (Except.ok.inj hvalue).symm⟩
  · split at hvalue
    · contradiction
    · rename_i found hfound
      obtain ⟨-, -, rfl⟩ := exists_of_map_eq_ok hvalue
      exact Or.inr ⟨_, itemsList_iff.2 ⟨found, hfound, rfl⟩, rfl⟩
  · obtain ⟨-, -, rfl⟩ := exists_of_map_eq_ok hvalue
    exact Or.inr ⟨_, rfl, rfl⟩
  · contradiction

theorem getD_normalizeIds (ids : List (Snowflake space)) :
    (normalizeIds ids).getD [] = Ascending.ofList ids := by
  rw [normalizeIds, EmptyRule.normalize]
  cases Ascending.ofList ids <;> rfl

/-- A value that is just the set of the identifiers that are named, unset if there are none. -/
structure IsSetOf (IsNamed : Snowflake space → Prop)
    (value : Option (List (Snowflake space))) : Prop where
  ne_nil : value ≠ some []
  ascending : (value.getD []).Pairwise (· < ·)
  mem_iff : ∀ id, id ∈ value.getD [] ↔ IsNamed id

theorem isSetOf_normalizeIds {IsNamed : Snowflake space → Prop} {ids : List (Snowflake space)}
    (hids : ∀ id, id ∈ ids ↔ IsNamed id) : IsSetOf IsNamed (normalizeIds ids) where
  ne_nil hempty := (normalizeIds_eq_some hempty).1 rfl
  ascending := getD_normalizeIds ids ▸ Snowflake.pairwise_ofList ids
  mem_iff id := by rw [getD_normalizeIds, Ascending.mem_ofList, hids]

theorem isSetOf_none {IsNamed : Snowflake space → Prop} (hnone : ∀ id, ¬ IsNamed id) :
    IsSetOf IsNamed none :=
  ⟨nofun, List.Pairwise.nil, fun id => iff_of_false List.not_mem_nil (hnone id)⟩

theorem IsSetOf.eq_none_iff {IsNamed : Snowflake space → Prop}
    {value : Option (List (Snowflake space))} (hvalue : IsSetOf IsNamed value) :
    value = none ↔ ∀ id, ¬ IsNamed id := by
  simp only [← hvalue.mem_iff]
  cases value with
  | none => simp
  | some ids =>
      have hne : ids ≠ [] := fun hempty => hvalue.ne_nil (congrArg some hempty)
      obtain ⟨id, hid⟩ := List.exists_mem_of_ne_nil ids hne
      exact iff_of_false nofun fun hnone => hnone id hid

/-- There is one value for what is named. -/
theorem IsSetOf.unique {IsNamed : Snowflake space → Prop} {a b : Option (List (Snowflake space))}
    (ha : IsSetOf IsNamed a) (hb : IsSetOf IsNamed b) : a = b := by
  have hitems : a.getD [] = b.getD [] :=
    Snowflake.eq_of_pairwise_of_mem_iff ha.ascending hb.ascending fun id =>
      (ha.mem_iff id).trans (hb.mem_iff id).symm
  rw [← normalize_getD ha.ne_nil, hitems, normalize_getD hb.ne_nil]

theorem normalizeIds_congr {a b : List (Snowflake space)} (hsame : ∀ id, id ∈ a ↔ id ∈ b) :
    normalizeIds a = normalizeIds b :=
  (isSetOf_normalizeIds hsame).unique (isSetOf_normalizeIds fun _ => Iff.rfl)

end Codec

/-- The identifier is read from an item of an array. -/
def Snowflake.IsReadIn {space : IdSpace} (id : Snowflake space) : Option Json → Prop
  | some (.array items) => ∃ item ∈ items, id.IsReadFrom item
  | _ => False

namespace Codec

variable {space : IdSpace} {maxItems : Option Nat}

theorem mem_filterMap_itemId?_iff {items : List Json} {id : Snowflake space} :
    id ∈ items.filterMap itemId? ↔ ∃ item ∈ items, id.IsReadFrom item := by
  simp only [List.mem_filterMap, Snowflake.itemId?_eq_some_iff]

/-- What is read is the set of the identifiers that are read from the items. -/
theorem isSetOf_decode (raw : Option Json) :
    IsSetOf (fun id => id.IsReadIn raw) ((idArray space maxItems).decode raw) := by
  cases raw with
  | none => exact isSetOf_none fun _ hid => hid
  | some json =>
      cases json with
      | array items => exact isSetOf_normalizeIds fun _ => mem_filterMap_itemId?_iff
      | null | bool | number | string | object => exact isSetOf_none fun _ hid => hid

/-- What is accepted is the set of the identifiers that the candidate names. -/
theorem isSetOf_accept {candidate : Candidate} {value : Option (List (Snowflake space))}
    (hvalue : (idArray space maxItems).accept candidate = .ok value) :
    IsSetOf (fun id => id.IsNamedBy candidate) value := by
  rcases null_or_lists_of_acceptIds hvalue with ⟨rfl, rfl⟩ | ⟨ids, hids, rfl⟩
  · exact isSetOf_none fun _ hid => hid
  · exact isSetOf_normalizeIds hids.mem_iff

/-- Items that stand for no identifier may be left out of an array. -/
theorem decode_filter {items : List Json} {keep : Json → Bool}
    (hkeep : ∀ item ∈ items, ∀ id : Snowflake space, id.IsReadFrom item → keep item = true) :
    (idArray space maxItems).decode (some (.array (items.filter keep))) =
      (idArray space maxItems).decode (some (.array items)) := by
  apply normalizeIds_congr
  intro id
  rw [mem_filterMap_itemId?_iff, mem_filterMap_itemId?_iff]
  constructor
  · rintro ⟨item, hitem, hid⟩
    exact ⟨item, (List.mem_filter.1 hitem).1, hid⟩
  · rintro ⟨item, hitem, hid⟩
    exact ⟨item, List.mem_filter.2 ⟨hitem, hkeep item hitem id hid⟩, hid⟩

/-- Whether identifiers are read or accepted, the value is unset or an ascending list that
is not empty, and has just the identifiers that the items stand for.  What else there is
in an array does not matter to the reader. -/
theorem isSetOf_decode_and_accept (space : IdSpace) (maxItems : Option Nat) :
    (∀ raw, IsSetOf (fun id => id.IsReadIn raw) ((idArray space maxItems).decode raw) ∧
      ((idArray space maxItems).decode raw = none ↔
        (raw = none ∨ raw = some .null) ∨ ∀ id : Snowflake space, ¬ id.IsReadIn raw)) ∧
    (∀ candidate value, (idArray space maxItems).accept candidate = .ok value →
      IsSetOf (fun id => id.IsNamedBy candidate) value ∧
      (value = none ↔ candidate = .null ∨ ∀ id : Snowflake space, ¬ id.IsNamedBy candidate)) ∧
    ∀ (items : List Json) (keep : Json → Bool),
      (∀ item ∈ items, ∀ id : Snowflake space, id.IsReadFrom item → keep item = true) →
        (idArray space maxItems).decode (some (.array (items.filter keep))) =
          (idArray space maxItems).decode (some (.array items)) := by
  refine ⟨fun raw => ?_, fun candidate value hvalue => ?_, fun _ _ => decode_filter⟩
  · have hset : IsSetOf _ ((idArray space maxItems).decode raw) := isSetOf_decode raw
    refine ⟨hset, hset.eq_none_iff.trans (or_iff_right_of_imp ?_).symm⟩
    rintro (rfl | rfl) <;> exact fun _ hid => hid
  · have hset := isSetOf_accept hvalue
    refine ⟨hset, hset.eq_none_iff.trans (or_iff_right_of_imp ?_).symm⟩
    rintro rfl
    exact fun _ hid => hid

theorem isSetOf_one_three :
    (idArray .role none).accept
        (.array [.string "3", .integer 0, .null, .integer 1, .string "+03"]) =
      .ok (some [⟨1, by decide⟩, ⟨3, by decide⟩] : Option (List (Snowflake .role))) ∧
    IsSetOf
      (fun id : Snowflake .role =>
        id.IsNamedBy (.array [.string "3", .integer 0, .null, .integer 1, .string "+03"]))
      (some [⟨1, by decide⟩, ⟨3, by decide⟩]) ∧
    (∀ item ∈ [.string "3", .string "x", .null], ∀ id : Snowflake .role,
      id.IsReadFrom item → decide (item ≠ .string "x") = true) ∧
    (idArray .role none).decode
        (some (.array ([.string "3", .string "x", .null].filter fun item => item ≠ .string "x"))) =
      (idArray .role none).decode (some (.array [.string "3", .string "x", .null])) := by
  have hkeep : ∀ item ∈ [.string "3", .string "x", .null], ∀ id : Snowflake .role,
      id.IsReadFrom item → decide (item ≠ .string "x") = true := by
    intro item _ id hread
    apply decide_eq_true
    rintro rfl
    exact nomatch hread.2
  exact ⟨rfl, ((isSetOf_decode_and_accept .role none).2.1 _ _ rfl).1, hkeep,
    (isSetOf_decode_and_accept .role none).2.2 _ _ hkeep⟩

/-- What is accepted depends only on the set of the identifiers: their order, their
repetitions, how they are spelled and the unset items do not matter. -/
def DependsOnSet (space : IdSpace) (maxItems : Option Nat) : Prop :=
  ∀ (first second : Candidate) (a b : List (Snowflake space)), first.Lists a → second.Lists b →
    (∀ id, id ∈ a ↔ id ∈ b) →
      ((idArray space maxItems).accept first).toOption =
        ((idArray space maxItems).accept second).toOption

theorem accept_of_lists {candidate : Candidate} {ids : List (Snowflake space)}
    (hids : candidate.Lists ids) :
    (idArray space maxItems).accept candidate =
      if (Bounds.upTo maxItems).contains ids.length then .ok (normalizeIds ids)
      else .error (.constraint (.within (.upTo maxItems) .items)) := by
  rw [accept, acceptIds_of_lists hids, checkCount, Bounds.check]
  split <;> rfl

/-- Two lists of the same identifiers are accepted as the same value, or refused for the
same reason, if both have too many items or neither. -/
theorem accept_eq_of_contains_eq {first second : Candidate} {a b : List (Snowflake space)}
    (hfirst : first.Lists a) (hsecond : second.Lists b) (hsame : ∀ id, id ∈ a ↔ id ∈ b)
    (hcount : (Bounds.upTo maxItems).contains a.length =
      (Bounds.upTo maxItems).contains b.length) :
    (idArray space maxItems).accept first = (idArray space maxItems).accept second := by
  rw [accept_of_lists hfirst, accept_of_lists hsecond, hcount, normalizeIds_congr hsame]

theorem isSome_accept_of_lists {candidate : Candidate} {ids : List (Snowflake space)}
    (hids : candidate.Lists ids) :
    ((idArray space maxItems).accept candidate).toOption.isSome =
      (Bounds.upTo maxItems).contains ids.length := by
  rw [accept_of_lists hids]
  cases (Bounds.upTo maxItems).contains ids.length <;> rfl

theorem toOption_accept_eq_iff {first second : Candidate} {a b : List (Snowflake space)}
    (hfirst : first.Lists a) (hsecond : second.Lists b) (hsame : ∀ id, id ∈ a ↔ id ∈ b) :
    ((idArray space maxItems).accept first).toOption =
        ((idArray space maxItems).accept second).toOption ↔
      (Bounds.upTo maxItems).contains a.length = (Bounds.upTo maxItems).contains b.length := by
  constructor
  · intro heq
    rw [← isSome_accept_of_lists hfirst, heq, isSome_accept_of_lists hsecond]
  · intro hcount
    rw [accept_eq_of_contains_eq hfirst hsecond hsame hcount]

/-- Without a bound, or if no item is allowed, repetitions cannot matter. -/
theorem dependsOnSet_of_unbounded (hmax : maxItems = none ∨ maxItems = some 0) :
    DependsOnSet space maxItems := by
  intro first second a b hfirst hsecond hsame
  rw [toOption_accept_eq_iff hfirst hsecond hsame]
  rcases hmax with rfl | rfl
  · rfl
  · rw [Bounds.contains_upTo_some, Bounds.contains_upTo_some, decide_eq_decide]
    simp only [Nat.le_zero, List.length_eq_zero_iff, List.eq_nil_iff_forall_not_mem, hsame]

/-- The same identifier any number of times. -/
def repeated (count : Nat) (id : Snowflake space) : Candidate :=
  .domain (.ids (List.replicate count id.cast))

theorem lists_repeated (count : Nat) (id : Snowflake space) :
    (repeated count id).Lists (List.replicate count id) :=
  List.map_replicate

/-- With any other bound they do: an identifier that is repeated once more than items are
allowed is refused. -/
theorem not_dependsOnSet_succ (max : Nat) : ¬ DependsOnSet space (some (max + 1)) := by
  intro hset
  let id : Snowflake space := ⟨1, by decide⟩
  have hmany := lists_repeated (max + 2) id
  have hone := lists_repeated 1 id
  have hsame (other : Snowflake space) :
      other ∈ List.replicate (max + 2) id ↔ other ∈ List.replicate 1 id := by
    simp [List.mem_replicate]
  have hcount := (toOption_accept_eq_iff hmany hone hsame).1 (hset _ _ _ _ hmany hone hsame)
  rw [List.length_replicate, List.length_replicate, Bounds.contains_upTo_some,
    Bounds.contains_upTo_some, decide_eq_decide] at hcount
  omega

/-- What is accepted depends only on the set of the identifiers exactly if their number
is not bounded, or none is allowed.  In general the same is made of two lists with the
same identifiers exactly if both have too many items or neither, a repeated one being
counted as often as it is there. -/
theorem dependsOnSet_iff (space : IdSpace) (maxItems : Option Nat) :
    (DependsOnSet space maxItems ↔ maxItems = none ∨ maxItems = some 0) ∧
    ∀ (first second : Candidate) (a b : List (Snowflake space)), first.Lists a →
      second.Lists b → (∀ id, id ∈ a ↔ id ∈ b) →
        (((idArray space maxItems).accept first).toOption =
            ((idArray space maxItems).accept second).toOption ↔
          (Bounds.upTo maxItems).contains a.length = (Bounds.upTo maxItems).contains b.length) ∧
        ((idArray space maxItems).accept first = (idArray space maxItems).accept second ↔
          (Bounds.upTo maxItems).contains a.length =
            (Bounds.upTo maxItems).contains b.length) := by
  refine ⟨⟨fun hset => ?_, dependsOnSet_of_unbounded⟩, ?_⟩
  · match maxItems with
    | none => exact Or.inl rfl
    | some 0 => exact Or.inr rfl
    | some (max + 1) => exact absurd hset (not_dependsOnSet_succ max)
  · intro first second a b hfirst hsecond hsame
    refine ⟨toOption_accept_eq_iff hfirst hsecond hsame, ?_,
      accept_eq_of_contains_eq hfirst hsecond hsame⟩
    intro heq
    exact (toOption_accept_eq_iff hfirst hsecond hsame).1 (congrArg Except.toOption heq)

theorem accept_eq_of_respelled :
    (Candidate.array [.null, .string "03", .integer 1, .string "+1"]).Lists
      ([⟨3, by decide⟩, ⟨1, by decide⟩, ⟨1, by decide⟩] : List (Snowflake .tag)) ∧
    (Candidate.domain (.ids [⟨1, by decide⟩, ⟨3, by decide⟩, ⟨3, by decide⟩])).Lists
      ([⟨1, by decide⟩, ⟨3, by decide⟩, ⟨3, by decide⟩] : List (Snowflake .tag)) ∧
    (idArray .tag (some 3)).accept (.array [.null, .string "03", .integer 1, .string "+1"]) =
      (idArray .tag (some 3)).accept
        (.domain (.ids [⟨1, by decide⟩, ⟨3, by decide⟩, ⟨3, by decide⟩])) := by
  have hfirst : (Candidate.array [.null, .string "03", .integer 1, .string "+1"]).Lists
      ([⟨3, by decide⟩, ⟨1, by decide⟩, ⟨1, by decide⟩] : List (Snowflake .tag)) :=
    itemsList_iff.2
      ⟨[none, some ⟨3, by decide⟩, some ⟨1, by decide⟩, some ⟨1, by decide⟩], rfl, rfl⟩
  have hsecond : (Candidate.domain (.ids [⟨1, by decide⟩, ⟨3, by decide⟩, ⟨3, by decide⟩])).Lists
      ([⟨1, by decide⟩, ⟨3, by decide⟩, ⟨3, by decide⟩] : List (Snowflake .tag)) := rfl
  have hsame (id : Snowflake .tag) :
      id ∈ [⟨3, by decide⟩, ⟨1, by decide⟩, ⟨1, by decide⟩] ↔
        id ∈ [⟨1, by decide⟩, ⟨3, by decide⟩, ⟨3, by decide⟩] := by
    simp [or_comm]
  have hresults := (dependsOnSet_iff .tag (some 3)).2 _ _ _ _ hfirst hsecond hsame
  exact ⟨hfirst, hsecond, hresults.2.2 rfl⟩

/-- One identifier that is there twice is refused as a second one would be. -/
theorem not_dependsOnSet_one :
    (idArray .tag (some 1)).accept (.array [.string "1", .string "1"]) =
        .error (.constraint (.within (.upTo (some 1)) .items)) ∧
      (idArray .tag (some 1)).accept (.array [.string "1"]) =
        .ok (some [⟨1, by decide⟩] : Option (List (Snowflake .tag))) ∧
      ¬ DependsOnSet .tag (some 1) :=
  ⟨rfl, rfl, not_dependsOnSet_succ 0⟩

end Codec

end AuditFields
