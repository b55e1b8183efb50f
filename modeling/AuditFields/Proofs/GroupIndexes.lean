/-
The two indexes of a conversion group: what adding an entry or an alias does to them,
and what it means that they agree.  An attribute is found under its wire key and its
wire key under the attribute, and what was added to an attribute is reported under a
key that leads back to it.
-/
import AuditFields.Audit.Group

namespace AuditFields

namespace Resolved

/-- The same entry under a key of another placement. -/
def placedAs (resolved : Resolved) (placement : Placement) : Resolved :=
  { resolved with placement }

end Resolved

namespace ConversionGroup

/-- Adding an entry: it was there, or the table admits it and its name and its key
were both free. -/
theorem addEntry_eq_ok {group next : ConversionGroup} {entry : ConversionEntry}
    (hnext : group.addEntry entry = .ok next) :
    (∃ existing, group.resolveName entry.name = some existing ∧ existing.entry = entry ∧
        next = group) ∨
      ∃ rule, group.resolveName entry.name = none ∧
        AttributeRule.find? entry.name = some rule ∧ rule.admits entry.domain = true ∧
          group.resolveKey entry.key = none ∧
            next = { group with
              entries := group.entries ++ [entry]
              byKey := (entry.key, ⟨entry, .direct, rule.empties⟩) :: group.byKey
              byName := (entry.name, ⟨entry, .direct, rule.empties⟩) :: group.byName } := by
  rw [addEntry] at hnext
  split at hnext
  · rename_i existing hname
    split at hnext
    · rename_i hequal
      exact Or.inl ⟨existing, hname, hequal, (Except.ok.inj hnext).symm⟩
    · contradiction
  · rename_i hname
    split at hnext
    · contradiction
    · rename_i rule hrule
      split at hnext
      · rename_i hadmits
        split at hnext
        · contradiction
        · rename_i hkey
          exact Or.inr ⟨rule, hname, hrule, hadmits, hkey, (Except.ok.inj hnext).symm⟩
      · contradiction

/-- Adding an alias: its attribute was there and its key was free. -/
theorem addAlias_eq_ok {group next : ConversionGroup} {declared : Alias}
    (hnext : group.addAlias declared = .ok next) :
    ∃ target, group.resolveName declared.name = some target ∧
      group.resolveKey declared.key = none ∧
        next = { group with
          byKey := (declared.key, target.placedAs declared.placement) :: group.byKey
          aliases := declared :: group.aliases } := by
  rw [addAlias] at hnext
  split at hnext
  · contradiction
  · rename_i target hname
    split at hnext
    · contradiction
    · rename_i hkey
      exact ⟨target, hname, hkey, (Except.ok.inj hnext).symm⟩

/-- The indexes of a group agree with each other and with its aliases. -/
structure Coherent (group : ConversionGroup) : Prop where
  name_eq : ∀ {name resolved}, group.resolveName name = some resolved →
    resolved.entry.name = name ∧ resolved.placement = .direct
  key_of_name : ∀ {name resolved}, group.resolveName name = some resolved →
    group.resolveKey resolved.entry.key = some resolved
  name_of_key : ∀ {key resolved}, group.resolveKey key = some resolved →
    group.resolveName resolved.entry.name = some (resolved.placedAs .direct)
  alias_resolves : ∀ declared ∈ group.aliases, ∃ resolved,
    group.resolveName declared.name = some resolved ∧
      group.resolveKey declared.key = some (resolved.placedAs declared.placement)
  mem_entries : ∀ {name resolved}, group.resolveName name = some resolved →
    resolved.entry ∈ group.entries

/-- The key that reports what was added to an attribute or removed from it leads
back to the attribute. -/
theorem Coherent.resolveKey_of_aliasKey {group : ConversionGroup} (hgroup : group.Coherent)
    {name key : String} {placement : Placement} {resolved : Resolved}
    (hname : group.resolveName name = some resolved)
    (hkey : group.aliasKey name placement = some key) :
    group.resolveKey key = some (resolved.placedAs placement) := by
  obtain ⟨declared, hfound, rfl⟩ := Option.map_eq_some_iff.1 hkey
  have hdeclared := List.find?_some hfound
  simp only [decide_eq_true_eq] at hdeclared
  obtain ⟨rfl, rfl⟩ := hdeclared
  obtain ⟨target, htarget, halias⟩ :=
    hgroup.alias_resolves declared (List.mem_of_find?_eq_some hfound)
  rw [hname, Option.some.injEq] at htarget
  exact htarget ▸ halias

/-- Groups all of whose entries are among the given ones. -/
def DrawnFrom (entries : List ConversionEntry) (group : ConversionGroup) : Prop :=
  ∀ entry ∈ group.entries, entry ∈ entries

/-- The additions that made a group: the entries, then the aliases. -/
theorem build_eq_ok {name : String} {entries : List ConversionEntry} {aliases : List Alias}
    {group : ConversionGroup} (hbuild : build name entries aliases = .ok group) :
    ∃ filled, addAll ConversionGroup.addEntry (empty name) entries = .ok filled ∧
      addAll ConversionGroup.addAlias filled aliases = .ok group := by
  rw [build] at hbuild
  split at hbuild
  · contradiction
  · rename_i filled hfilled
    split at hbuild
    · contradiction
    · rename_i last hlast
      exact ⟨filled, hfilled, Except.ok.inj hbuild ▸ hlast⟩

end ConversionGroup

end AuditFields
