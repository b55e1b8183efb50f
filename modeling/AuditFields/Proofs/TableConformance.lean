/-
Conformance with the table of audited attributes.  Building a group compares the
domain that an entry declares with the table, and never with what its codec makes.
The declared domain is the codec's, so whatever a resolved attribute reads or
validates is a value that the table admits, and is not empty where the table
takes empty values for unset ones.
-/
import AuditFields.Proofs.AcceptedValues
import AuditFields.Proofs.TargetGroups

namespace AuditFields

theorem ScalarCodec.domain_of_toChange {codec : ScalarCodec} {value : codec.Value}
    {change : ChangeValue} (hchange : codec.toChange value = some change) :
    change.domain = (Codec.scalar codec).domain := by
  cases codec with
  | bool | int | text | color | flags | enum =>
      injection hchange with hchange
      rw [← hchange]
      rfl
  | optionalText | id | timestamp | imageHash | object =>
      obtain ⟨kept, -, rfl⟩ := Option.map_eq_some_iff.1 hchange
      rfl

namespace Codec

theorem domain_of_toChange {codec : Codec} {value : codec.Value} {change : ChangeValue}
    (hchange : codec.toChange value = some change) : change.domain = codec.domain := by
  cases codec with
  | scalar codec => exact ScalarCodec.domain_of_toChange hchange
  | idArray | stringArray | stringSet | objectArray | nestedArray =>
      obtain ⟨kept, -, rfl⟩ := Option.map_eq_some_iff.1 hchange
      rfl

/-- No codec makes values of the domain of what is not understood. -/
theorem domain_ne_raw (codec : Codec) : codec.domain ≠ .raw := by
  cases codec with
  | scalar codec => cases codec <;> nofun
  | idArray | stringArray | stringSet | objectArray | nestedArray => nofun

end Codec

namespace Field

/-- A valid side of a change is the change value of an accepted value. -/
theorem validateChange_eq_ok {field : Field} {candidate : Candidate}
    {side : Option ChangeValue} (hvalid : field.validateChange candidate = .ok side) :
    ∃ value, field.codec.accept candidate = .ok value ∧ field.codec.toChange value = side := by
  obtain ⟨value, hvalue, hside⟩ := exists_of_map_eq_ok hvalid
  exact ⟨value, accept_of_validate hvalue, hside⟩

/-- A refusal is reported in the name of the attribute. -/
theorem name_of_validateChange_eq_error {field : Field} {candidate : Candidate}
    {e : ValidationError} (hinvalid : field.validateChange candidate = .error e) :
    e.name = field.name := by
  have hrefused := eq_error_of_map_eq_error hinvalid
  cases haccept : field.codec.accept candidate with
  | error rejection =>
      simp only [validate, haccept] at hrefused
      rw [← Except.error.inj hrefused]
  | ok value =>
      simp only [validate, haccept] at hrefused
      contradiction

end Field

/-- The table has a rule for the attribute, which admits the declared domain and
says what its empty values mean. -/
def Resolved.FollowsTable (resolved : Resolved) : Prop :=
  ∃ rule, AttributeRule.find? resolved.entry.name = some rule ∧
    rule.admits resolved.entry.domain = true ∧ resolved.empties = rule.empties

namespace ConversionGroup

/-- Groups all of whose attributes follow the table. -/
def FollowsTable (group : ConversionGroup) : Prop :=
  ∀ name resolved, group.resolveName name = some resolved → resolved.FollowsTable

/-- A group that could be built follows the table. -/
theorem build_followsTable {name : String} {entries : List ConversionEntry}
    {aliases : List Alias} {group : ConversionGroup}
    (hbuild : build name entries aliases = .ok group) : group.FollowsTable := by
  intro key resolved hfound
  have hgroup := indexes_of_build hbuild
  obtain ⟨entry, hentry, rfl, rule, hrule, rfl⟩ := hgroup.of_resolveName hfound
  obtain ⟨admitting, hadmitting, hadmits⟩ := hgroup.consistent.admitted entry hentry
  rw [hrule, Option.some.injEq] at hadmitting
  exact ⟨rule, hrule, hadmitting ▸ hadmits, rfl⟩

end ConversionGroup

/-- The contract between a resolved attribute and the table. -/
structure Resolved.Conforms (resolved : Resolved) : Prop where
  /-- An absent or null side is unset. -/
  get_unset : ∀ raw, raw = none ∨ raw = some .null → resolved.get raw = none
  /-- What the codec does not recognise stays as it came. -/
  get_raw : ∀ json, json ≠ .null →
    resolved.entry.converter.field.codec.matchesWire json = false →
      resolved.get (some json) = some (.raw json)
  /-- What it recognises has the declared domain, unless it is unset. -/
  domain_of_get : ∀ json value,
    resolved.entry.converter.field.codec.matchesWire json = true →
      resolved.get (some json) = some value → value.domain = resolved.entry.domain
  /-- So has every value that validation returns. -/
  domain_of_validate : ∀ candidate value,
    resolved.validate candidate = .ok (some value) → value.domain = resolved.entry.domain
  /-- Every refusal names the attribute. -/
  name_of_error : ∀ candidate e,
    resolved.validate candidate = .error e → e.name = resolved.entry.name
  /-- The declared domain is that of a typed value. -/
  domain_ne_raw : resolved.entry.domain ≠ .raw
  /-- The table admits the domain, and its rule for empties is kept. -/
  admitted : ∃ rule, AttributeRule.find? resolved.entry.name = some rule ∧
    rule.admits resolved.entry.domain = true ∧
      (rule.empties = .unset →
        (∀ raw value, resolved.get raw = some value → value.isEmpty = false) ∧
          ∀ candidate value, resolved.validate candidate = .ok (some value) →
            value.isEmpty = false)

namespace Resolved

variable {resolved : Resolved}

/-- What is read is what the field reads, if the rule for empties lets it pass. -/
theorem get_eq_some_iff {raw : Option Json} {value : ChangeValue} :
    resolved.get raw = some value ↔
      resolved.entry.converter.field.parseChange raw = some value ∧
        (resolved.empties = .unset → value.isEmpty = false) :=
  EmptyRule.normalize_eq_some_iff _ _ _ _

/-- What is validated is what the field accepts, if the rule for empties lets it
pass. -/
theorem validate_eq_ok_some {candidate : Candidate} {value : ChangeValue}
    (hvalid : resolved.validate candidate = .ok (some value)) :
    ∃ accepted, resolved.entry.converter.field.codec.accept candidate = .ok accepted ∧
      resolved.entry.converter.field.codec.toChange accepted = some value ∧
        (resolved.empties = .unset → value.isEmpty = false) := by
  obtain ⟨side, hside, hkept⟩ := exists_of_map_eq_ok hvalid
  obtain ⟨hvalue, hempty⟩ := (EmptyRule.normalize_eq_some_iff _ _ _ _).1 hkept
  obtain ⟨accepted, haccept, hchange⟩ := Field.validateChange_eq_ok hside
  exact ⟨accepted, haccept, hchange.trans hvalue, hempty⟩

/-- The entry of a field conforms as soon as it follows the table. -/
theorem conforms (hdeclared : resolved.entry.IsDeclared) (htable : resolved.FollowsTable) :
    resolved.Conforms := by
  have hdomain := hdeclared.domain_eq
  obtain ⟨rule, hrule, hadmits, hempties⟩ := htable
  refine ⟨?_, ?_, ?_, ?_, ?_, ?_, rule, hrule, hadmits, ?_⟩
  · rintro raw (rfl | rfl)
    · exact EmptyRule.normalize_none _ _
    · exact EmptyRule.normalize_none _ _
  · intro json hnull hmatches
    have hread : resolved.entry.converter.field.parseChange (some json) = some (.raw json) := by
      simp [Field.parseChange, hnull, hmatches]
    exact get_eq_some_iff.2 ⟨hread, fun _ => rfl⟩
  · intro json value hmatches hget
    have hread := (get_eq_some_iff.1 hget).1
    rw [Field.parseChange_of_matchesWire _ hmatches] at hread
    rw [Codec.domain_of_toChange hread, hdomain]
  · intro candidate value hvalid
    obtain ⟨accepted, -, hchange, -⟩ := validate_eq_ok_some hvalid
    rw [Codec.domain_of_toChange hchange, hdomain]
  · intro candidate e hinvalid
    rw [← hdeclared.name_eq]
    exact Field.name_of_validateChange_eq_error (eq_error_of_map_eq_error hinvalid)
  · rw [← hdomain]
    exact Codec.domain_ne_raw _
  · intro hunset
    have hkept := hempties.trans hunset
    constructor
    · intro raw value hget
      exact (get_eq_some_iff.1 hget).2 hkept
    · intro candidate value hvalid
      obtain ⟨accepted, -, -, hempty⟩ := validate_eq_ok_some hvalid
      exact hempty hkept

end Resolved

namespace ChangeTarget

variable {target : ChangeTarget} {resolved : Resolved}

theorem followsTable_of_resolveName {name : String}
    (hname : target.resolveName name = some resolved) : resolved.FollowsTable := by
  obtain ⟨group, hgroup, hfound⟩ := Option.bind_eq_some_iff.1 hname
  exact ConversionGroup.build_followsTable (build_of_group? hgroup) name resolved hfound

theorem conforms_of_resolveName {name : String}
    (hname : target.resolveName name = some resolved) : resolved.Conforms :=
  Resolved.conforms (isDeclared_of_resolveName hname) (followsTable_of_resolveName hname)

/-- The placement of a key does not matter to what its attribute hands out. -/
theorem conforms_of_placedAs {placement : Placement}
    (hplaced : (resolved.placedAs placement).Conforms) : resolved.Conforms :=
  ⟨hplaced.get_unset, hplaced.get_raw, hplaced.domain_of_get, hplaced.domain_of_validate,
    hplaced.name_of_error, hplaced.domain_ne_raw, hplaced.admitted⟩

/-- Every target has a group, and each attribute that a key or a name leads to
hands out what the table admits: unset sides, typed values of the declared domain
and, read from the wire only, values kept as they came. -/
theorem conforms_of_resolves (target : ChangeTarget) :
    (∃ group, target.group? = some group) ∧
      (∀ key resolved, target.resolveKey key = some resolved → resolved.Conforms) ∧
        ∀ name resolved, target.resolveName name = some resolved → resolved.Conforms := by
  refine ⟨target.exists_group, ?_, ?_⟩
  · intro key resolved hkey
    exact conforms_of_placedAs (conforms_of_resolveName (resolveName_of_resolveKey hkey))
  · intro name resolved hname
    exact conforms_of_resolveName hname

/-- The entry of keywords, found through the key of those that a rule gained, and the
entry of a sticker's tags, which keeps a switch as it came. -/
theorem conforms_of_resolves_keywords :
    ChangeTarget.autoModerationRule.resolveKey "$add_keyword_filter" =
        some ⟨.declare "auto moderation rule" Entity.AutoModeration.keywords, .added, .unset⟩ ∧
      Resolved.Conforms
        ⟨.declare "auto moderation rule" Entity.AutoModeration.keywords, .added, .unset⟩ ∧
      ChangeTarget.sticker.resolveName "tags" =
        some ⟨.declare "sticker" Entity.Sticker.tags, .direct, .unset⟩ ∧
      Resolved.get ⟨.declare "sticker" Entity.Sticker.tags, .direct, .unset⟩
        (some (.bool true)) = some (.raw (.bool true)) := by
  have hkeywords : ChangeTarget.autoModerationRule.resolveKey "$add_keyword_filter" =
      some ⟨.declare "auto moderation rule" Entity.AutoModeration.keywords, .added, .unset⟩ := by
    decide +kernel
  have htags : ChangeTarget.sticker.resolveName "tags" =
      some ⟨.declare "sticker" Entity.Sticker.tags, .direct, .unset⟩ := by decide +kernel
  refine ⟨hkeywords, ?_, htags, ?_⟩
  · exact (conforms_of_resolves .autoModerationRule).2.1 _ _ hkeywords
  · exact ((conforms_of_resolves .sticker).2.2 _ _ htags).get_raw _ nofun rfl

end ChangeTarget

end AuditFields
