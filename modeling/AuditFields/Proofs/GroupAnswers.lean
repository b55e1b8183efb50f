/-
What a group answers.  Building succeeds exactly on consistent declarations, and a
group that was built answers for them alone: by wire key, by attribute and by what
was added or removed.
-/
import AuditFields.Entity.Community
import AuditFields.Proofs.GroupDeclarations

namespace AuditFields

/-- The last item that passes a test is the first one from the end. -/
theorem find?_reverse_eq_some_iff {α : Type} {items : List α} {test : α → Bool} {found : α} :
    items.reverse.find? test = some found ↔ test found = true ∧
      ∃ before after, items = before ++ found :: after ∧ ∀ later ∈ after, test later = false := by
  rw [List.find?_eq_some_iff_append]
  refine and_congr_right fun _ => ⟨?_, ?_⟩
  · rintro ⟨after, before, heq, hafter⟩
    rw [List.reverse_eq_iff, List.reverse_append, List.reverse_cons, List.append_assoc,
      List.singleton_append] at heq
    refine ⟨before.reverse, after.reverse, heq, ?_⟩
    intro later hlater
    simpa using hafter later (List.mem_reverse.1 hlater)
  · rintro ⟨before, after, rfl, hafter⟩
    refine ⟨after.reverse, before.reverse, by simp, ?_⟩
    intro later hlater
    simpa using hafter later (List.mem_reverse.1 hlater)

theorem exists_ok {ε α : Type} {result : Except ε α} (hresult : result.isOk = true) :
    ∃ value, result = .ok value := by
  cases result with
  | error fault => contradiction
  | ok value => exact ⟨value, rfl⟩

namespace ConversionGroup

open Entity

/-- Groups that answer alike: they find the same under every key and every attribute,
and have the same entries. -/
structure AnswersLike (group other : ConversionGroup) : Prop where
  resolveKey_eq : ∀ key, group.resolveKey key = other.resolveKey key
  resolveName_eq : ∀ name, group.resolveName name = other.resolveName name
  aliasKey_eq : ∀ name placement, group.aliasKey name placement = other.aliasKey name placement
  entries_perm : group.entries.Perm other.entries

/-- How a group answers for its declarations. -/
structure AnswersFor (group : ConversionGroup) (entries : List ConversionEntry)
    (aliases : List Alias) : Prop where
  /-- An attribute is found exactly if an entry of its name was declared. -/
  resolveName_isSome_iff : ∀ name,
    (∃ resolved, group.resolveName name = some resolved) ↔ ∃ entry ∈ entries, entry.name = name
  /-- It is found as that entry, in its own place and under the table's rule for empties. -/
  resolveName_spec : ∀ name resolved, group.resolveName name = some resolved →
    resolved.entry ∈ entries ∧ resolved.entry.name = name ∧ resolved.placement = .direct ∧
      ∃ rule, AttributeRule.find? name = some rule ∧ resolved.empties = rule.empties
  /-- A key is found exactly if it is the key of an entry or of an alias. -/
  resolveKey_isSome_iff : ∀ key, (∃ resolved, group.resolveKey key = some resolved) ↔
    (∃ entry ∈ entries, entry.key = key) ∨ ∃ declared ∈ aliases, declared.key = key
  /-- The key of an entry leads to what the attribute is found as. -/
  resolveKey_of_entry : ∀ entry ∈ entries, ∃ resolved,
    group.resolveName entry.name = some resolved ∧ group.resolveKey entry.key = some resolved
  /-- The key of an alias leads to the same in the alias's place. -/
  resolveKey_of_alias : ∀ declared ∈ aliases, ∃ resolved,
    group.resolveName declared.name = some resolved ∧
      group.resolveKey declared.key = some (resolved.placedAs declared.placement)
  /-- The entries are the declared ones, each where it was declared first. -/
  entries_eq : group.entries = entries.eraseDups
  /-- So each attribute is listed once, and in that order. -/
  names_eq : group.entries.map (·.name) = (entries.map (·.name)).eraseDups
  names_nodup : (group.entries.map (·.name)).Nodup
  /-- There are as many entries as attributes. -/
  length_eq : group.entries.length = (entries.map (·.name)).eraseDups.length
  /-- Of the aliases of an attribute in one place the last one counts. -/
  aliasKey_iff : ∀ name placement key, group.aliasKey name placement = some key ↔
    ∃ before after, aliases = before ++ ⟨key, name, placement⟩ :: after ∧
      ∀ later ∈ after, ¬ (later.name = name ∧ later.placement = placement)
  /-- Its key leads back to the attribute in that place. -/
  resolveKey_of_aliasKey : ∀ name placement key, group.aliasKey name placement = some key →
    ∃ resolved, group.resolveName name = some resolved ∧ resolved.entry.name = name ∧
      group.resolveKey key = some (resolved.placedAs placement)

namespace Indexes

variable {group other : ConversionGroup} {entries others : List ConversionEntry}
  {aliases : List Alias}

/-- What is found depends on which entries were declared, and on neither their order nor
their repetition. -/
theorem answersLike (hgroup : group.Indexes entries aliases) (hother : other.Indexes others aliases)
    (hmem : ∀ entry, entry ∈ entries ↔ entry ∈ others) : group.AnswersLike other := by
  have hname : ∀ name, group.resolveName name = other.resolveName name := by
    intro name
    apply Option.ext
    intro resolved
    rw [hgroup.resolveName_iff, hother.resolveName_iff]
    simp only [hmem]
  have hnodup : ∀ {group : ConversionGroup}, (group.entries.map (·.name)).Nodup →
      group.entries.Nodup :=
    fun hnames => List.Pairwise.of_map _ (fun _ _ hne heq => hne (heq ▸ rfl)) hnames
  refine ⟨?_, hname, ?_, ?_⟩
  · intro key
    apply Option.ext
    intro resolved
    rw [hgroup.resolveKey_iff, hother.resolveKey_iff]
    simp only [hmem, hname]
  · intro name placement
    rw [aliasKey, aliasKey, hgroup.aliases_eq, hother.aliases_eq]
  · rw [List.perm_ext_iff_of_nodup (hnodup hgroup.names_nodup) (hnodup hother.names_nodup)]
    intro entry
    rw [hgroup.entries_eq, hother.entries_eq, List.mem_eraseDups, List.mem_eraseDups, hmem]

/-- The key that stands for an attribute in one place is that of the last alias. -/
theorem aliasKey_eq_some_iff (hgroup : group.Indexes entries aliases) (name : String)
    (placement : Placement) (key : String) :
    group.aliasKey name placement = some key ↔
      ∃ before after, aliases = before ++ ⟨key, name, placement⟩ :: after ∧
        ∀ later ∈ after, ¬ (later.name = name ∧ later.placement = placement) := by
  rw [aliasKey, hgroup.aliases_eq, Option.map_eq_some_iff]
  constructor
  · rintro ⟨⟨key, other, place⟩, hfound, rfl⟩
    obtain ⟨hmatch, before, after, heq, hafter⟩ := find?_reverse_eq_some_iff.1 hfound
    simp only [decide_eq_true_eq] at hmatch
    obtain ⟨rfl, rfl⟩ := hmatch
    exact ⟨before, after, heq, fun later hlater => of_decide_eq_false (hafter later hlater)⟩
  · rintro ⟨before, after, heq, hafter⟩
    have hlater := fun later hlater => decide_eq_false (hafter later hlater)
    exact ⟨⟨key, name, placement⟩,
      find?_reverse_eq_some_iff.2 ⟨by simp, before, after, heq, hlater⟩, rfl⟩

/-- What the indexes hold is what the group answers. -/
theorem answersFor (hgroup : group.Indexes entries aliases) : group.AnswersFor entries aliases where
  resolveName_isSome_iff := hgroup.exists_resolveName_iff
  resolveName_spec := by
    intro name resolved hfound
    obtain ⟨entry, hentry, hname, rule, hrule, rfl⟩ := hgroup.of_resolveName hfound
    exact ⟨hentry, hname, rfl, rule, hrule, rfl⟩
  resolveKey_isSome_iff := hgroup.exists_resolveKey_iff
  resolveKey_of_entry := by
    intro entry hentry
    obtain ⟨resolved, hresolved⟩ := hgroup.exists_direct? hentry
    refine ⟨resolved, ?_, ?_⟩
    · exact (hgroup.resolveName_iff _ _).2 ⟨entry, hentry, rfl, hresolved⟩
    · exact (hgroup.resolveKey_iff _ _).2 (Or.inl ⟨entry, hentry, rfl, hresolved⟩)
  resolveKey_of_alias := hgroup.resolveKey_of_alias
  entries_eq := hgroup.entries_eq
  names_eq := hgroup.names_eq
  names_nodup := hgroup.names_nodup
  length_eq := by rw [← hgroup.names_eq, List.length_map]
  aliasKey_iff := hgroup.aliasKey_eq_some_iff
  resolveKey_of_aliasKey := by
    intro name placement key hkey
    obtain ⟨before, after, heq, -⟩ := (hgroup.aliasKey_eq_some_iff _ _ _).1 hkey
    have hdeclared : ⟨key, name, placement⟩ ∈ aliases := heq ▸ List.mem_append_cons_self
    obtain ⟨resolved, hname, hplaced⟩ := hgroup.resolveKey_of_alias _ hdeclared
    obtain ⟨entry, -, hentry, rule, -, rfl⟩ := hgroup.of_resolveName hname
    exact ⟨_, hname, hentry, hplaced⟩

end Indexes

variable {name : String} {entries : List ConversionEntry} {aliases : List Alias}

/-- Building succeeds exactly if the declarations are consistent. -/
theorem exists_build_iff : (∃ group, build name entries aliases = .ok group) ↔
    Consistent entries aliases := by
  constructor
  · rintro ⟨group, hbuild⟩
    exact (indexes_of_build hbuild).consistent
  · exact exists_build name

/-- Building succeeds exactly on consistent declarations.  So it does not depend on their
order, and an entry that is declared again, wherever that is, changes neither the success
nor any answer of the group. -/
theorem build_ok_iff_consistent (name : String) (entries : List ConversionEntry)
    (aliases : List Alias) :
    ((∃ group, build name entries aliases = .ok group) ↔ Consistent entries aliases) ∧
      (∀ others otherAliases, others.Perm entries → otherAliases.Perm aliases →
        ((∃ group, build name others otherAliases = .ok group) ↔
          ∃ group, build name entries aliases = .ok group)) ∧
      ∀ before after entry, entries = before ++ after → entry ∈ entries →
        ((∃ again, build name (before ++ entry :: after) aliases = .ok again) ↔
            ∃ group, build name entries aliases = .ok group) ∧
          ∀ group again, build name entries aliases = .ok group →
            build name (before ++ entry :: after) aliases = .ok again →
              again.AnswersLike group := by
  refine ⟨exists_build_iff, ?_, ?_⟩
  · intro others otherAliases hentries haliases
    rw [exists_build_iff, exists_build_iff]
    constructor
    · exact Consistent.congr (fun _ => hentries.symm.mem_iff) haliases.symm
    · exact Consistent.congr (fun _ => hentries.mem_iff) haliases
  · rintro before after entry rfl hentry
    have hmem : ∀ other, other ∈ before ++ entry :: after ↔ other ∈ before ++ after := by
      intro other
      rw [List.perm_middle.mem_iff, List.mem_cons]
      exact ⟨fun hother => hother.elim (· ▸ hentry) id, Or.inr⟩
    constructor
    · rw [exists_build_iff, exists_build_iff]
      constructor
      · exact Consistent.congr (fun other => (hmem other).symm) (.refl _)
      · exact Consistent.congr hmem (.refl _)
    · intro group again hgroup hagain
      exact (indexes_of_build hagain).answersLike (indexes_of_build hgroup) hmem

/-- The names and the roles of a member, with a key for the roles it gained: they make a
group in either order, and the same group again when the roles are declared twice. -/
theorem build_ok_iff_consistent_member :
    Consistent [.declare "member" Member.nick, .declare "member" Member.roleIds]
        [⟨"$add", "role_ids", .added⟩] ∧
      (∃ group, build "member" [.declare "member" Member.roleIds, .declare "member" Member.nick]
        [⟨"$add", "role_ids", .added⟩] = .ok group) ∧
      ∃ group again,
        build "member" [.declare "member" Member.nick, .declare "member" Member.roleIds]
            [⟨"$add", "role_ids", .added⟩] = .ok group ∧
          build "member" [.declare "member" Member.roleIds, .declare "member" Member.nick,
            .declare "member" Member.roleIds] [⟨"$add", "role_ids", .added⟩] = .ok again ∧
            again.AnswersLike group := by
  obtain ⟨hconsistent, hperm, hagain⟩ := build_ok_iff_consistent "member"
    [.declare "member" Member.nick, .declare "member" Member.roleIds]
    [⟨"$add", "role_ids", .added⟩]
  have hbuild : ∃ group,
      build "member" [.declare "member" Member.nick, .declare "member" Member.roleIds]
        [⟨"$add", "role_ids", .added⟩] = .ok group := exists_ok (by decide +kernel)
  obtain ⟨hiff, hlike⟩ := hagain [] _ (.declare "member" Member.roleIds) rfl (by simp)
  obtain ⟨again, hrepeated⟩ := hiff.2 hbuild
  refine ⟨hconsistent.1 hbuild, (hperm _ _ (.swap _ _ []) (.refl _)).2 hbuild, ?_⟩
  obtain ⟨group, hgroup⟩ := hbuild
  exact ⟨group, again, hgroup, hrepeated, hlike group again hgroup hrepeated⟩

/-- A group that was built answers for its declarations, by attribute, by key and by what
was added or removed. -/
theorem build_answersFor {group : ConversionGroup}
    (hbuild : build name entries aliases = .ok group) : group.AnswersFor entries aliases :=
  (indexes_of_build hbuild).answersFor

/-- The roles of a member, declared twice and with two keys for those it gained: the
second key counts when they are written, and both are understood. -/
theorem build_answersFor_member : ∃ group,
    build "member" [.declare "member" Member.roleIds, .declare "member" Member.roleIds]
        [⟨"$add", "role_ids", .added⟩, ⟨"$gain", "role_ids", .added⟩] = .ok group ∧
      group.AnswersFor [.declare "member" Member.roleIds, .declare "member" Member.roleIds]
        [⟨"$add", "role_ids", .added⟩, ⟨"$gain", "role_ids", .added⟩] ∧
      group.aliasKey "role_ids" .added = some "$gain" := by
  obtain ⟨group, hgroup⟩ : ∃ group,
      build "member" [.declare "member" Member.roleIds, .declare "member" Member.roleIds]
        [⟨"$add", "role_ids", .added⟩, ⟨"$gain", "role_ids", .added⟩] = .ok group :=
    exists_ok (by decide +kernel)
  have hanswers := build_answersFor hgroup
  refine ⟨group, hgroup, hanswers, (hanswers.aliasKey_iff _ _ _).2 ?_⟩
  exact ⟨[⟨"$add", "role_ids", .added⟩], [], rfl, List.forall_mem_nil _⟩

end ConversionGroup

end AuditFields
