/-
The groups of the targets.  A target resolves its wire keys and its attributes
through one coherent group, whose entries are those of fields.
-/
import AuditFields.Audit.Target
import AuditFields.Proofs.GroupDeclarations

namespace AuditFields

namespace ConversionEntry

/-- Entries made of a field, with the name, the key and the domain of the field. -/
def IsDeclared (entry : ConversionEntry) : Prop :=
  ∃ owner field, entry = declare owner field

/-- A declared domain that is the one of the codec makes the entry of the field. -/
theorem declareAs_eq_declare {owner : String} {domain : ValueDomain} {field : Field}
    (hdomain : domain = field.codec.domain) : declareAs owner domain field = declare owner field := by
  rw [hdomain]
  rfl

theorem IsDeclared.domain_eq {entry : ConversionEntry} (hentry : entry.IsDeclared) :
    entry.converter.field.codec.domain = entry.domain := by
  obtain ⟨owner, field, rfl⟩ := hentry
  rfl

theorem IsDeclared.name_eq {entry : ConversionEntry} (hentry : entry.IsDeclared) :
    entry.converter.field.name = entry.name := by
  obtain ⟨owner, field, rfl⟩ := hentry
  rfl

end ConversionEntry

namespace ChangeTarget

theorem build_of_group? {target : ChangeTarget} {group : ConversionGroup}
    (hgroup : target.group? = some group) :
    ConversionGroup.build target.name target.entries target.aliases = .ok group := by
  rw [group?] at hgroup
  cases hbuild : ConversionGroup.build target.name target.entries target.aliases with
  | error e =>
      rw [hbuild] at hgroup
      contradiction
  | ok built =>
      rw [hbuild] at hgroup
      exact congrArg Except.ok (Option.some.inj hgroup)

theorem isDeclared_of_mem_own (target : ChangeTarget) {fields : List (Field × ValueDomain)}
    (hdomains : ∀ declared ∈ fields, declared.2 = declared.1.codec.domain) :
    ∀ entry ∈ own target fields, entry.IsDeclared := by
  intro entry hentry
  obtain ⟨declared, hdeclared, rfl⟩ := List.mem_map.1 hentry
  exact ⟨target.name, declared.1, ConversionEntry.declareAs_eq_declare (hdomains _ hdeclared)⟩

theorem isDeclared_channelEntry : channelEntry.IsDeclared :=
  ⟨"shared", Entity.Invite.channelId, rfl⟩

/-- Every entry of a target is the entry of a field: the domain it was declared
under is the one of the field's codec. -/
theorem isDeclared_of_mem_entries (target : ChangeTarget) :
    ∀ entry ∈ target.entries, entry.IsDeclared := by
  have hown := @isDeclared_of_mem_own target
  have hshared := fun fields hdomains =>
    List.forall_mem_cons.2 ⟨isDeclared_channelEntry, @hown fields hdomains⟩
  cases target with
  | invite | scheduledEvent | stageInstance => exact hshared _ (by decide)
  | webhook => exact List.forall_mem_append.2 ⟨hown (by decide), hshared _ (by decide)⟩
  | applicationCommand | autoModerationRule | channel | emoji | guild | integration | member
  | onboarding | onboardingPrompt | permissionOverwrite | role | sticker => exact hown (by decide)

/-- The declarations of every target make a group. -/
theorem exists_group (target : ChangeTarget) : ∃ group, target.group? = some group := by
  rw [← Option.isSome_iff_exists]
  cases target <;> decide +kernel

theorem coherent_of_group? {target : ChangeTarget} {group : ConversionGroup}
    (hgroup : target.group? = some group) : group.Coherent :=
  ConversionGroup.build_coherent (build_of_group? hgroup)

theorem name_eq_of_resolveName {target : ChangeTarget} {name : String} {resolved : Resolved}
    (hname : target.resolveName name = some resolved) :
    resolved.entry.name = name ∧ resolved.placement = .direct := by
  obtain ⟨group, hgroup, hfound⟩ := Option.bind_eq_some_iff.1 hname
  exact (coherent_of_group? hgroup).name_eq hfound

/-- The entry behind a wire key is that of its attribute. -/
theorem resolveName_of_resolveKey {target : ChangeTarget} {key : String} {resolved : Resolved}
    (hkey : target.resolveKey key = some resolved) :
    target.resolveName resolved.entry.name = some (resolved.placedAs .direct) := by
  obtain ⟨group, hgroup, hfound⟩ := Option.bind_eq_some_iff.1 hkey
  have hname := (coherent_of_group? hgroup).name_of_key hfound
  rw [resolveName, hgroup, Option.bind_some, hname]

/-- A target resolves to entries that it declares. -/
theorem mem_entries_of_resolveName {target : ChangeTarget} {name : String} {resolved : Resolved}
    (hname : target.resolveName name = some resolved) : resolved.entry ∈ target.entries := by
  obtain ⟨group, hgroup, hfound⟩ := Option.bind_eq_some_iff.1 hname
  have hmem := (coherent_of_group? hgroup).mem_entries hfound
  exact ConversionGroup.build_drawnFrom (build_of_group? hgroup) _ hmem

/-- Every attribute of a target is that of a field. -/
theorem isDeclared_of_resolveName {target : ChangeTarget} {name : String} {resolved : Resolved}
    (hname : target.resolveName name = some resolved) : resolved.entry.IsDeclared :=
  isDeclared_of_mem_entries target _ (mem_entries_of_resolveName hname)

/-- The domain that an entry shows is that of its codec. -/
theorem domain_of_resolveName {target : ChangeTarget} {name : String} {resolved : Resolved}
    (hname : target.resolveName name = some resolved) :
    resolved.entry.converter.field.codec.domain = resolved.entry.domain :=
  (isDeclared_of_resolveName hname).domain_eq

theorem domain_of_resolveKey {target : ChangeTarget} {key : String} {resolved : Resolved}
    (hkey : target.resolveKey key = some resolved) :
    resolved.entry.converter.field.codec.domain = resolved.entry.domain := by
  have hdomain := domain_of_resolveName (resolveName_of_resolveKey hkey)
  exact hdomain

end ChangeTarget

end AuditFields
