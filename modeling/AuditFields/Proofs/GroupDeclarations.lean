/-
Declarations that make a group.  A group can be built exactly when its declarations
are consistent, in whatever order they stand and however often an entry is repeated,
and what it finds depends on nothing but which entries were declared.
-/
import AuditFields.Proofs.GroupIndexes

namespace AuditFields

/-- What an entry is found as under its own name, if the table has the attribute. -/
def ConversionEntry.direct? (entry : ConversionEntry) : Option Resolved :=
  (AttributeRule.find? entry.name).map fun rule => ⟨entry, .direct, rule.empties⟩

theorem ConversionEntry.direct?_eq_some {entry : ConversionEntry} {resolved : Resolved}
    (hresolved : entry.direct? = some resolved) :
    ∃ rule, AttributeRule.find? entry.name = some rule ∧
      resolved = ⟨entry, .direct, rule.empties⟩ := by
  obtain ⟨rule, hrule, rfl⟩ := Option.map_eq_some_iff.1 hresolved
  exact ⟨rule, hrule, rfl⟩

/-- One more item leaves the first occurrences as they were, and is one itself if it
is new. -/
theorem eraseDups_concat {α : Type} [DecidableEq α] (items : List α) (item : α) :
    (items ++ [item]).eraseDups =
      if item ∈ items then items.eraseDups else items.eraseDups ++ [item] := by
  rw [List.eraseDups_append]
  by_cases hmem : item ∈ items <;> simp [List.removeAll, List.eraseDups_cons, hmem]

namespace ConversionGroup

/-- Declarations that agree with each other and with the table of attributes. -/
structure Consistent (entries : List ConversionEntry) (aliases : List Alias) : Prop where
  /-- An attribute has one entry. -/
  eq_of_name : ∀ first ∈ entries, ∀ second ∈ entries, first.name = second.name → first = second
  /-- The table has the attribute and admits its domain. -/
  admitted : ∀ entry ∈ entries, ∃ rule,
    AttributeRule.find? entry.name = some rule ∧ rule.admits entry.domain = true
  /-- Different attributes have different keys. -/
  key_ne : ∀ first ∈ entries, ∀ second ∈ entries,
    first.name ≠ second.name → first.key ≠ second.key
  /-- An alias is that of an attribute with an entry. -/
  target : ∀ declared ∈ aliases, ∃ entry ∈ entries, entry.name = declared.name
  /-- No two aliases share a key. -/
  aliasKeys_nodup : (aliases.map Alias.key).Nodup
  /-- No alias has the key of an entry. -/
  aliasKey_ne : ∀ declared ∈ aliases, ∀ entry ∈ entries, declared.key ≠ entry.key

namespace Consistent

variable {entries others : List ConversionEntry} {aliases : List Alias}

theorem empty : Consistent [] [] where
  eq_of_name := List.forall_mem_nil _
  admitted := List.forall_mem_nil _
  key_ne := List.forall_mem_nil _
  target := List.forall_mem_nil _
  aliasKeys_nodup := List.nodup_nil
  aliasKey_ne := List.forall_mem_nil _

/-- Neither the order nor the repetition of entries matters, nor the order of aliases. -/
theorem congr {otherAliases : List Alias} (hmem : ∀ entry, entry ∈ others ↔ entry ∈ entries)
    (hperm : otherAliases.Perm aliases) (hconsistent : Consistent entries aliases) :
    Consistent others otherAliases where
  eq_of_name first hfirst second hsecond :=
    hconsistent.eq_of_name first ((hmem first).1 hfirst) second ((hmem second).1 hsecond)
  admitted entry hentry := hconsistent.admitted entry ((hmem entry).1 hentry)
  key_ne first hfirst second hsecond :=
    hconsistent.key_ne first ((hmem first).1 hfirst) second ((hmem second).1 hsecond)
  target declared hdeclared := by
    obtain ⟨entry, hentry, hname⟩ := hconsistent.target declared (hperm.mem_iff.1 hdeclared)
    exact ⟨entry, (hmem entry).2 hentry, hname⟩
  aliasKeys_nodup := (hperm.map Alias.key).nodup_iff.2 hconsistent.aliasKeys_nodup
  aliasKey_ne declared hdeclared entry hentry :=
    hconsistent.aliasKey_ne declared (hperm.mem_iff.1 hdeclared) entry ((hmem entry).1 hentry)

/-- Some of the aliases of consistent declarations can be left out at the end. -/
theorem of_append_aliases {more : List Alias}
    (hconsistent : Consistent entries (aliases ++ more)) : Consistent entries aliases where
  eq_of_name := hconsistent.eq_of_name
  admitted := hconsistent.admitted
  key_ne := hconsistent.key_ne
  target declared hdeclared := hconsistent.target declared (List.mem_append_left more hdeclared)
  aliasKeys_nodup := by
    have hnodup := hconsistent.aliasKeys_nodup
    rw [List.map_append] at hnodup
    exact hnodup.sublist (List.sublist_append_left _ _)
  aliasKey_ne declared hdeclared :=
    hconsistent.aliasKey_ne declared (List.mem_append_left more hdeclared)

/-- So can some of the entries, as long as there are no aliases. -/
theorem of_append_entries {more : List ConversionEntry}
    (hconsistent : Consistent (entries ++ more) []) : Consistent entries [] where
  eq_of_name first hfirst second hsecond :=
    hconsistent.eq_of_name first (List.mem_append_left more hfirst) second
      (List.mem_append_left more hsecond)
  admitted entry hentry := hconsistent.admitted entry (List.mem_append_left more hentry)
  key_ne first hfirst second hsecond :=
    hconsistent.key_ne first (List.mem_append_left more hfirst) second
      (List.mem_append_left more hsecond)
  target := List.forall_mem_nil _
  aliasKeys_nodup := List.nodup_nil
  aliasKey_ne := List.forall_mem_nil _

/-- One more entry, of a new name and a new key, that the table admits. -/
theorem concat_entry {entry : ConversionEntry} {rule : AttributeRule}
    (hconsistent : Consistent entries []) (hname : ∀ other ∈ entries, other.name ≠ entry.name)
    (hrule : AttributeRule.find? entry.name = some rule)
    (hadmits : rule.admits entry.domain = true)
    (hkey : ∀ other ∈ entries, other.key ≠ entry.key) : Consistent (entries ++ [entry]) [] where
  eq_of_name first hfirst second hsecond heq := by
    rw [List.mem_append, List.mem_singleton] at hfirst hsecond
    rcases hfirst with hfirst | rfl <;> rcases hsecond with hsecond | rfl
    · exact hconsistent.eq_of_name first hfirst second hsecond heq
    · exact absurd heq (hname first hfirst)
    · exact absurd heq.symm (hname second hsecond)
    · rfl
  admitted other hother := by
    rw [List.mem_append, List.mem_singleton] at hother
    rcases hother with hother | rfl
    · exact hconsistent.admitted other hother
    · exact ⟨rule, hrule, hadmits⟩
  key_ne first hfirst second hsecond hne := by
    rw [List.mem_append, List.mem_singleton] at hfirst hsecond
    rcases hfirst with hfirst | rfl <;> rcases hsecond with hsecond | rfl
    · exact hconsistent.key_ne first hfirst second hsecond hne
    · exact hkey first hfirst
    · exact (hkey second hsecond).symm
    · exact absurd rfl hne
  target := List.forall_mem_nil _
  aliasKeys_nodup := List.nodup_nil
  aliasKey_ne := List.forall_mem_nil _

/-- One more alias, of an attribute that has an entry, under a new key. -/
theorem concat_alias {declared : Alias} (hconsistent : Consistent entries aliases)
    (htarget : ∃ entry ∈ entries, entry.name = declared.name)
    (hentries : ∀ entry ∈ entries, entry.key ≠ declared.key)
    (haliases : ∀ other ∈ aliases, other.key ≠ declared.key) :
    Consistent entries (aliases ++ [declared]) where
  eq_of_name := hconsistent.eq_of_name
  admitted := hconsistent.admitted
  key_ne := hconsistent.key_ne
  target other hother := by
    rw [List.mem_append, List.mem_singleton] at hother
    rcases hother with hother | rfl
    · exact hconsistent.target other hother
    · exact htarget
  aliasKeys_nodup := by
    rw [List.map_append, List.nodup_append]
    refine ⟨hconsistent.aliasKeys_nodup, List.pairwise_singleton _ _, ?_⟩
    rw [List.forall_mem_map]
    intro other hother key hkey
    rw [List.map_singleton, List.mem_singleton] at hkey
    exact hkey ▸ haliases other hother
  aliasKey_ne other hother entry hentry := by
    rw [List.mem_append, List.mem_singleton] at hother
    rcases hother with hother | rfl
    · exact hconsistent.aliasKey_ne other hother entry hentry
    · exact (hentries entry hentry).symm

end Consistent

/-- What a group has taken in, and where it finds it. -/
structure Indexes (group : ConversionGroup) (entries : List ConversionEntry)
    (aliases : List Alias) : Prop where
  consistent : Consistent entries aliases
  entries_eq : group.entries = entries.eraseDups
  names_eq : group.entries.map (·.name) = (entries.map (·.name)).eraseDups
  names_nodup : (group.entries.map (·.name)).Nodup
  aliases_eq : group.aliases = aliases.reverse
  resolveName_iff : ∀ name resolved, group.resolveName name = some resolved ↔
    ∃ entry ∈ entries, entry.name = name ∧ entry.direct? = some resolved
  resolveKey_iff : ∀ key resolved, group.resolveKey key = some resolved ↔
    (∃ entry ∈ entries, entry.key = key ∧ entry.direct? = some resolved) ∨
      ∃ declared ∈ aliases, declared.key = key ∧
        ∃ target, group.resolveName declared.name = some target ∧
          resolved = target.placedAs declared.placement

theorem lookup_cons_eq_some_iff {key other : String} {resolved found : Resolved}
    {index : List (String × Resolved)} :
    ((other, resolved) :: index).lookup key = some found ↔
      key = other ∧ found = resolved ∨ key ≠ other ∧ index.lookup key = some found := by
  rw [List.lookup_cons]
  by_cases heq : key = other
  · simp only [heq, beq_self_eq_true, Option.some.injEq, true_and, ne_eq, not_true_eq_false,
      false_and, or_false]
    exact eq_comm
  · simp only [beq_false_of_ne heq, heq, false_and, ne_eq, not_false_eq_true, true_and, false_or]

/-- An index that finds each entry under its label finds one more under a new label. -/
theorem lookup_cons_direct_iff {index : List (String × Resolved)} {entries : List ConversionEntry}
    {label : ConversionEntry → String}
    (hindex : ∀ key resolved, index.lookup key = some resolved ↔
      ∃ entry ∈ entries, label entry = key ∧ entry.direct? = some resolved)
    {entry : ConversionEntry} {direct : Resolved} (hdirect : entry.direct? = some direct)
    (hfresh : ∀ other ∈ entries, label other ≠ label entry) (key : String) (resolved : Resolved) :
    ((label entry, direct) :: index).lookup key = some resolved ↔
      ∃ other ∈ entries ++ [entry], label other = key ∧ other.direct? = some resolved := by
  rw [lookup_cons_eq_some_iff, hindex]
  constructor
  · rintro (⟨rfl, rfl⟩ | ⟨-, other, hother, hfound⟩)
    · exact ⟨entry, List.mem_concat_self, rfl, hdirect⟩
    · exact ⟨other, List.mem_append_left _ hother, hfound⟩
  · rintro ⟨other, hother, hlabel, hresolved⟩
    rw [List.mem_append, List.mem_singleton] at hother
    rcases hother with hother | rfl
    · exact Or.inr ⟨hlabel ▸ hfresh other hother, other, hother, hlabel, hresolved⟩
    · rw [hdirect, Option.some.injEq] at hresolved
      exact Or.inl ⟨hlabel.symm, hresolved.symm⟩

namespace Indexes

variable {group next : ConversionGroup} {entries : List ConversionEntry} {aliases : List Alias}
  {entry : ConversionEntry} {declared : Alias}

theorem exists_direct? (hgroup : group.Indexes entries aliases) (hentry : entry ∈ entries) :
    ∃ resolved, entry.direct? = some resolved := by
  obtain ⟨rule, hrule, -⟩ := hgroup.consistent.admitted entry hentry
  exact ⟨_, congrArg (Option.map _) hrule⟩

/-- What is found under a name is an entry of that name, as the table has it. -/
theorem of_resolveName (hgroup : group.Indexes entries aliases) {name : String}
    {resolved : Resolved} (hfound : group.resolveName name = some resolved) :
    ∃ entry ∈ entries, entry.name = name ∧
      ∃ rule, AttributeRule.find? name = some rule ∧
        resolved = ⟨entry, .direct, rule.empties⟩ := by
  obtain ⟨entry, hentry, rfl, hresolved⟩ := (hgroup.resolveName_iff _ _).1 hfound
  exact ⟨entry, hentry, rfl, ConversionEntry.direct?_eq_some hresolved⟩

/-- An attribute is found as soon as it has an entry. -/
theorem exists_resolveName_iff (hgroup : group.Indexes entries aliases) (name : String) :
    (∃ resolved, group.resolveName name = some resolved) ↔ ∃ entry ∈ entries, entry.name = name := by
  constructor
  · rintro ⟨resolved, hfound⟩
    obtain ⟨entry, hentry, hname, -⟩ := hgroup.of_resolveName hfound
    exact ⟨entry, hentry, hname⟩
  · rintro ⟨entry, hentry, hname⟩
    obtain ⟨resolved, hresolved⟩ := hgroup.exists_direct? hentry
    exact ⟨resolved, (hgroup.resolveName_iff name resolved).2 ⟨entry, hentry, hname, hresolved⟩⟩

/-- A key is found as soon as it is that of an entry or of an alias. -/
theorem exists_resolveKey_iff (hgroup : group.Indexes entries aliases) (key : String) :
    (∃ resolved, group.resolveKey key = some resolved) ↔
      (∃ entry ∈ entries, entry.key = key) ∨ ∃ declared ∈ aliases, declared.key = key := by
  constructor
  · rintro ⟨resolved, hfound⟩
    rcases (hgroup.resolveKey_iff key resolved).1 hfound with
      ⟨entry, hentry, hkey, -⟩ | ⟨declared, hdeclared, hkey, -⟩
    · exact Or.inl ⟨entry, hentry, hkey⟩
    · exact Or.inr ⟨declared, hdeclared, hkey⟩
  · rintro (⟨entry, hentry, hkey⟩ | ⟨declared, hdeclared, hkey⟩)
    · obtain ⟨resolved, hresolved⟩ := hgroup.exists_direct? hentry
      exact ⟨resolved, (hgroup.resolveKey_iff key resolved).2
        (Or.inl ⟨entry, hentry, hkey, hresolved⟩)⟩
    · obtain ⟨target, htarget⟩ :=
        (hgroup.exists_resolveName_iff _).2 (hgroup.consistent.target declared hdeclared)
      exact ⟨_, (hgroup.resolveKey_iff key _).2
        (Or.inr ⟨declared, hdeclared, hkey, target, htarget, rfl⟩)⟩

/-- An attribute is not found exactly if no entry has its name. -/
theorem resolveName_eq_none_iff (hgroup : group.Indexes entries aliases) (name : String) :
    group.resolveName name = none ↔ ∀ entry ∈ entries, entry.name ≠ name := by
  rw [← Option.not_isSome_iff_eq_none, Option.isSome_iff_exists, hgroup.exists_resolveName_iff]
  simp only [not_exists, not_and, ne_eq]

/-- A key is not found exactly if neither an entry nor an alias has it. -/
theorem resolveKey_eq_none_iff (hgroup : group.Indexes entries aliases) (key : String) :
    group.resolveKey key = none ↔
      (∀ entry ∈ entries, entry.key ≠ key) ∧ ∀ declared ∈ aliases, declared.key ≠ key := by
  rw [← Option.not_isSome_iff_eq_none, Option.isSome_iff_exists, hgroup.exists_resolveKey_iff]
  simp only [not_or, not_exists, not_and, ne_eq]

theorem empty (name : String) : (ConversionGroup.empty name).Indexes [] [] where
  consistent := .empty
  entries_eq := rfl
  names_eq := rfl
  names_nodup := List.nodup_nil
  aliases_eq := rfl
  resolveName_iff := by simp [ConversionGroup.empty, resolveName]
  resolveKey_iff := by simp [ConversionGroup.empty, resolveKey]

/-- An entry that is there already adds nothing. -/
theorem concat_existing (hgroup : group.Indexes entries aliases) (hmem : entry ∈ entries) :
    group.Indexes (entries ++ [entry]) aliases := by
  have hsame : ∀ other, other ∈ entries ++ [entry] ↔ other ∈ entries := by
    intro other
    rw [List.mem_append, List.mem_singleton]
    exact ⟨fun hother => hother.elim id (· ▸ hmem), Or.inl⟩
  refine ⟨hgroup.consistent.congr hsame (.refl _), ?_, ?_, hgroup.names_nodup,
    hgroup.aliases_eq, ?_, ?_⟩
  · rw [eraseDups_concat, if_pos hmem, hgroup.entries_eq]
  · rw [List.map_append, List.map_singleton, eraseDups_concat,
      if_pos (List.mem_map_of_mem hmem), hgroup.names_eq]
  · simp only [hsame]
    exact hgroup.resolveName_iff
  · simp only [hsame]
    exact hgroup.resolveKey_iff

/-- Taking in an entry. -/
theorem addEntry (hgroup : group.Indexes entries []) (hnext : group.addEntry entry = .ok next) :
    next.Indexes (entries ++ [entry]) [] := by
  rcases addEntry_eq_ok hnext with
    ⟨existing, hfound, hentry, rfl⟩ | ⟨rule, hname, hrule, hadmits, hkey, rfl⟩
  · obtain ⟨other, hother, -, rule, -, rfl⟩ := hgroup.of_resolveName hfound
    exact hgroup.concat_existing (hentry ▸ hother)
  · have hnames := (hgroup.resolveName_eq_none_iff _).1 hname
    have hkeys := ((hgroup.resolveKey_eq_none_iff _).1 hkey).1
    have hfresh : entry ∉ entries := fun hmem => hnames entry hmem rfl
    have hfreshName : entry.name ∉ entries.map (·.name) := by
      intro hmem
      obtain ⟨other, hother, heq⟩ := List.mem_map.1 hmem
      exact hnames other hother heq
    have hdirect : entry.direct? = some ⟨entry, .direct, rule.empties⟩ :=
      congrArg (Option.map _) hrule
    refine ⟨hgroup.consistent.concat_entry hnames hrule hadmits hkeys, ?_, ?_, ?_,
      hgroup.aliases_eq, ?_, ?_⟩
    · rw [eraseDups_concat, if_neg hfresh, hgroup.entries_eq]
    · simp only [List.map_append, List.map_singleton, eraseDups_concat, if_neg hfreshName,
        hgroup.names_eq]
    · rw [List.map_append, List.map_singleton, List.nodup_append]
      refine ⟨hgroup.names_nodup, List.pairwise_singleton _ _, ?_⟩
      intro name hname other hother heq
      rw [hgroup.names_eq, List.mem_eraseDups] at hname
      exact hfreshName (List.mem_singleton.1 hother ▸ heq ▸ hname)
    · exact lookup_cons_direct_iff hgroup.resolveName_iff hdirect hnames
    · have hindex := hgroup.resolveKey_iff
      simp only [List.not_mem_nil, false_and, exists_false, or_false] at hindex ⊢
      exact lookup_cons_direct_iff hindex hdirect hkeys

/-- An entry that is consistent with those before is taken in. -/
theorem exists_addEntry (hgroup : group.Indexes entries [])
    (hconsistent : Consistent (entries ++ [entry]) []) :
    ∃ next, group.addEntry entry = .ok next := by
  have hmem : entry ∈ entries ++ [entry] := List.mem_concat_self
  rw [ConversionGroup.addEntry]
  cases hname : group.resolveName entry.name with
  | some existing =>
      obtain ⟨other, hother, heq, rule, -, rfl⟩ := hgroup.of_resolveName hname
      have hentry := hconsistent.eq_of_name other (List.mem_append_left _ hother) entry hmem heq
      exact ⟨group, if_pos hentry⟩
  | none =>
      obtain ⟨rule, hrule, hadmits⟩ := hconsistent.admitted entry hmem
      have hkey : group.resolveKey entry.key = none := by
        refine (hgroup.resolveKey_eq_none_iff _).2 ⟨?_, List.forall_mem_nil _⟩
        intro other hother
        have hne := (hgroup.resolveName_eq_none_iff _).1 hname other hother
        exact hconsistent.key_ne other (List.mem_append_left _ hother) entry hmem hne
      simp only [hrule, hadmits, if_true, hkey]
      exact ⟨_, rfl⟩

/-- Taking in an alias. -/
theorem addAlias (hgroup : group.Indexes entries aliases)
    (hnext : group.addAlias declared = .ok next) :
    next.Indexes entries (aliases ++ [declared]) := by
  obtain ⟨target, htarget, hkey, rfl⟩ := addAlias_eq_ok hnext
  obtain ⟨hentries, haliases⟩ := (hgroup.resolveKey_eq_none_iff _).1 hkey
  have hentry := (hgroup.exists_resolveName_iff _).1 ⟨target, htarget⟩
  refine ⟨hgroup.consistent.concat_alias hentry hentries haliases, hgroup.entries_eq,
    hgroup.names_eq, hgroup.names_nodup, ?_, hgroup.resolveName_iff, ?_⟩
  · rw [List.reverse_append, ← hgroup.aliases_eq]
    rfl
  · intro key resolved
    change ((declared.key, target.placedAs declared.placement) :: group.byKey).lookup key =
      some resolved ↔ _
    rw [lookup_cons_eq_some_iff]
    constructor
    · rintro (⟨rfl, rfl⟩ | ⟨-, hfound⟩)
      · exact Or.inr ⟨declared, List.mem_concat_self, rfl, target, htarget, rfl⟩
      · rcases (hgroup.resolveKey_iff key resolved).1 hfound with hentry | ⟨other, hother, hfound⟩
        · exact Or.inl hentry
        · exact Or.inr ⟨other, List.mem_append_left _ hother, hfound⟩
    · rintro (⟨entry, hmem, hlabel, hresolved⟩ | ⟨other, hother, hlabel, found, hfound, rfl⟩)
      · refine Or.inr ⟨hlabel ▸ hentries entry hmem, (hgroup.resolveKey_iff _ _).2 ?_⟩
        exact Or.inl ⟨entry, hmem, hlabel, hresolved⟩
      · rw [List.mem_append, List.mem_singleton] at hother
        rcases hother with hother | rfl
        · refine Or.inr ⟨hlabel ▸ haliases other hother, (hgroup.resolveKey_iff _ _).2 ?_⟩
          exact Or.inr ⟨other, hother, hlabel, found, hfound, rfl⟩
        · have htargets : some found = some target := hfound.symm.trans htarget
          rw [Option.some.inj htargets]
          exact Or.inl ⟨hlabel.symm, rfl⟩

/-- An alias that is consistent with the entries and the aliases before is taken in. -/
theorem exists_addAlias (hgroup : group.Indexes entries aliases)
    (hconsistent : Consistent entries (aliases ++ [declared])) :
    ∃ next, group.addAlias declared = .ok next := by
  have hmem : declared ∈ aliases ++ [declared] := List.mem_concat_self
  obtain ⟨target, htarget⟩ :=
    (hgroup.exists_resolveName_iff _).2 (hconsistent.target declared hmem)
  have hkey : group.resolveKey declared.key = none := by
    rw [hgroup.resolveKey_eq_none_iff]
    constructor
    · intro entry hentry
      exact (hconsistent.aliasKey_ne declared hmem entry hentry).symm
    · intro other hother
      have hnodup := hconsistent.aliasKeys_nodup
      rw [List.map_append, List.nodup_append] at hnodup
      exact hnodup.2.2 _ (List.mem_map_of_mem hother) _ List.mem_cons_self
  rw [ConversionGroup.addAlias, htarget]
  simp only [hkey]
  exact ⟨_, rfl⟩

/-- The key of an alias leads to what its attribute is found as, in the alias's place. -/
theorem resolveKey_of_alias (hgroup : group.Indexes entries aliases) :
    ∀ declared ∈ aliases, ∃ resolved, group.resolveName declared.name = some resolved ∧
      group.resolveKey declared.key = some (resolved.placedAs declared.placement) := by
  intro declared hdeclared
  have htarget := hgroup.consistent.target declared hdeclared
  obtain ⟨resolved, hname⟩ := (hgroup.exists_resolveName_iff _).2 htarget
  refine ⟨resolved, hname, (hgroup.resolveKey_iff _ _).2 (Or.inr ?_)⟩
  exact ⟨declared, hdeclared, rfl, resolved, hname, rfl⟩

/-- The indexes agree with each other. -/
theorem coherent (hgroup : group.Indexes entries aliases) : group.Coherent where
  name_eq := by
    intro name resolved hfound
    obtain ⟨entry, -, hname, rule, -, rfl⟩ := hgroup.of_resolveName hfound
    exact ⟨hname, rfl⟩
  key_of_name := by
    intro name resolved hfound
    obtain ⟨entry, hentry, -, hresolved⟩ := (hgroup.resolveName_iff _ _).1 hfound
    refine (hgroup.resolveKey_iff _ _).2 (Or.inl ⟨entry, hentry, ?_, hresolved⟩)
    obtain ⟨rule, -, rfl⟩ := ConversionEntry.direct?_eq_some hresolved
    rfl
  name_of_key := by
    -- the key is that of an entry, or that of an alias, whose attribute has an entry
    have hentry : ∀ entry ∈ entries, ∀ resolved, entry.direct? = some resolved →
        group.resolveName resolved.entry.name = some (resolved.placedAs .direct) := by
      intro entry hentry resolved hresolved
      obtain ⟨rule, -, rfl⟩ := ConversionEntry.direct?_eq_some hresolved
      exact (hgroup.resolveName_iff _ _).2 ⟨entry, hentry, rfl, hresolved⟩
    intro key resolved hfound
    rcases (hgroup.resolveKey_iff _ _).1 hfound with
      ⟨entry, hmem, -, hresolved⟩ | ⟨declared, -, -, target, htarget, rfl⟩
    · exact hentry entry hmem resolved hresolved
    · obtain ⟨entry, hmem, -, hresolved⟩ := (hgroup.resolveName_iff _ _).1 htarget
      exact hentry entry hmem target hresolved
  alias_resolves := by
    intro declared hdeclared
    rw [hgroup.aliases_eq, List.mem_reverse] at hdeclared
    exact hgroup.resolveKey_of_alias declared hdeclared
  mem_entries := by
    intro name resolved hfound
    obtain ⟨entry, hentry, -, rule, -, rfl⟩ := hgroup.of_resolveName hfound
    rw [hgroup.entries_eq, List.mem_eraseDups]
    exact hentry

end Indexes

section Runs

variable {α : Type} {add : ConversionGroup → α → Except GroupFault ConversionGroup}
  (Holds : ConversionGroup → List α → Prop)

/-- If each item that is added is held from then on, then so are all of them. -/
theorem addAll_holds
    (hstep : ∀ {group next done item}, Holds group done → add group item = .ok next →
      Holds next (done ++ [item]))
    {group last : ConversionGroup} {done items : List α} (hgroup : Holds group done)
    (hlast : addAll add group items = .ok last) : Holds last (done ++ items) := by
  induction items generalizing group done with
  | nil =>
      rw [List.append_nil]
      exact Except.ok.inj hlast ▸ hgroup
  | cons item rest ih =>
      rw [addAll] at hlast
      split at hlast
      · contradiction
      · rename_i next hnext
        rw [List.append_cons]
        exact ih (hstep hgroup hnext) hlast

/-- If each item that fits those before can be added, then so can a list of items that
fit as a whole. -/
theorem exists_addAll (Fits : List α → Prop)
    (hstep : ∀ {group next done item}, Holds group done → add group item = .ok next →
      Holds next (done ++ [item]))
    (hprogress : ∀ {group done item}, Holds group done → Fits (done ++ [item]) →
      ∃ next, add group item = .ok next)
    (hfirst : ∀ {done rest}, Fits (done ++ rest) → Fits done)
    {group : ConversionGroup} {done items : List α} (hgroup : Holds group done)
    (hfits : Fits (done ++ items)) : ∃ last, addAll add group items = .ok last := by
  induction items generalizing group done with
  | nil => exact ⟨group, rfl⟩
  | cons item rest ih =>
      rw [List.append_cons] at hfits
      obtain ⟨next, hnext⟩ := hprogress hgroup (hfirst hfits)
      rw [addAll, hnext]
      exact ih (hstep hgroup hnext) hfits

end Runs

variable {name : String} {entries : List ConversionEntry} {aliases : List Alias}

theorem Indexes.of_addAll_addEntry {filled : ConversionGroup}
    (hfilled : addAll ConversionGroup.addEntry (.empty name) entries = .ok filled) :
    filled.Indexes entries [] :=
  addAll_holds (·.Indexes · []) Indexes.addEntry (Indexes.empty name) hfilled

/-- A group that was built has taken in all its declarations. -/
theorem indexes_of_build {group : ConversionGroup}
    (hbuild : build name entries aliases = .ok group) : group.Indexes entries aliases := by
  obtain ⟨filled, hfilled, hlast⟩ := build_eq_ok hbuild
  have hentries := Indexes.of_addAll_addEntry hfilled
  exact addAll_holds (·.Indexes entries ·) Indexes.addAlias hentries hlast

/-- Consistent declarations make a group. -/
theorem exists_build (name : String) (hconsistent : Consistent entries aliases) :
    ∃ group, build name entries aliases = .ok group := by
  obtain ⟨filled, hfilled⟩ :=
    exists_addAll (·.Indexes · []) (Consistent · []) Indexes.addEntry Indexes.exists_addEntry
      Consistent.of_append_entries (Indexes.empty name) hconsistent.of_append_aliases
  have hentries := Indexes.of_addAll_addEntry hfilled
  obtain ⟨group, hgroup⟩ :=
    exists_addAll (·.Indexes entries ·) (Consistent entries) Indexes.addAlias
      Indexes.exists_addAlias Consistent.of_append_aliases hentries hconsistent
  refine ⟨group, ?_⟩
  simp only [build, hfilled, hgroup]

/-- A group that could be built is coherent. -/
theorem build_coherent {group : ConversionGroup}
    (hbuild : build name entries aliases = .ok group) : group.Coherent :=
  (indexes_of_build hbuild).coherent

/-- The entries of a group that could be built were declared. -/
theorem build_drawnFrom {group : ConversionGroup}
    (hbuild : build name entries aliases = .ok group) : group.DrawnFrom entries := by
  intro entry hentry
  rw [(indexes_of_build hbuild).entries_eq, List.mem_eraseDups] at hentry
  exact hentry

end ConversionGroup

end AuditFields
