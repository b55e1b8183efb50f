/-
Conversion groups: the entries of one kind of object, found by wire key and by
attribute name.  A group is built from declarations only if they agree.
-/
import AuditFields.Audit.Entry

namespace AuditFields

/-- A wire key that reports what was added to an attribute or removed from it. -/
structure Alias where
  key : String
  name : String
  placement : Placement
  deriving DecidableEq

/-- The conversions of one kind of object. -/
structure ConversionGroup where
  name : String
  entries : List ConversionEntry
  byKey : List (String × Resolved)
  byName : List (String × Resolved)
  aliases : List Alias
  deriving DecidableEq

/-- Why declarations make no group. -/
inductive GroupFault where
  | duplicateAttribute (name : String)
  | duplicateKey (key : String)
  | unknownAttribute (name : String)
  | inadmissibleDomain (name : String) (domain : ValueDomain)
  | unknownAliasTarget (key name : String)
  deriving DecidableEq

/-- A group that could not be built. -/
structure GroupError where
  group : String
  fault : GroupFault
  deriving DecidableEq

def GroupFault.message : GroupFault → String
  | .duplicateAttribute name => "attribute `" ++ name ++ "` is registered with two entries"
  | .duplicateKey key => "wire key `" ++ key ++ "` is claimed by two entries"
  | .unknownAttribute name =>
      "attribute `" ++ name ++ "` is missing from the value domain table"
  | .inadmissibleDomain name domain =>
      "attribute `" ++ name ++ "` does not admit " ++ domain.name ++ " values"
  | .unknownAliasTarget key name =>
      "alias `" ++ key ++ "` targets unregistered attribute `" ++ name ++ "`"

def GroupError.message (e : GroupError) : String :=
  "conversion group `" ++ e.group ++ "`: " ++ e.fault.message

namespace ConversionGroup

/-- The group of a name without entries. -/
def empty (name : String) : ConversionGroup :=
  ⟨name, [], [], [], []⟩

/-- The entry behind a wire key, aliases included. -/
def resolveKey (group : ConversionGroup) (key : String) : Option Resolved :=
  group.byKey.lookup key

/-- The entry of an attribute. -/
def resolveName (group : ConversionGroup) (name : String) : Option Resolved :=
  group.byName.lookup name

/-- The wire key that reports what was added to or removed from an attribute.
Of several the last one declared counts. -/
def aliasKey (group : ConversionGroup) (name : String) (placement : Placement) :
    Option String :=
  (group.aliases.find? fun a => a.name = name ∧ a.placement = placement).map Alias.key

/-- Add an entry.  Adding an equal entry again changes nothing. -/
def addEntry (group : ConversionGroup) (entry : ConversionEntry) :
    Except GroupFault ConversionGroup :=
  match group.resolveName entry.name with
  | some existing =>
      if existing.entry = entry then .ok group
      else .error (.duplicateAttribute entry.name)
  | none =>
      match AttributeRule.find? entry.name with
      | none => .error (.unknownAttribute entry.name)
      | some rule =>
          if rule.admits entry.domain then
            match group.resolveKey entry.key with
            | some _ => .error (.duplicateKey entry.key)
            | none =>
                let resolved : Resolved := ⟨entry, .direct, rule.empties⟩
                .ok { group with
                  entries := group.entries ++ [entry]
                  byKey := (entry.key, resolved) :: group.byKey
                  byName := (entry.name, resolved) :: group.byName }
          else .error (.inadmissibleDomain entry.name entry.domain)

/-- Add an alias of an attribute that has an entry. -/
def addAlias (group : ConversionGroup) (declared : Alias) :
    Except GroupFault ConversionGroup :=
  match group.resolveName declared.name with
  | none => .error (.unknownAliasTarget declared.key declared.name)
  | some target =>
      match group.resolveKey declared.key with
      | some _ => .error (.duplicateKey declared.key)
      | none =>
          .ok { group with
            byKey := (declared.key, { target with placement := declared.placement }) ::
              group.byKey
            aliases := declared :: group.aliases }

/-- Add several things in order. -/
def addAll {α : Type} (add : ConversionGroup → α → Except GroupFault ConversionGroup) :
    ConversionGroup → List α → Except GroupFault ConversionGroup
  | group, [] => .ok group
  | group, item :: rest =>
      match add group item with
      | .error fault => .error fault
      | .ok group => addAll add group rest

/-- Build a group: first the entries, then the aliases. -/
def build (name : String) (entries : List ConversionEntry) (aliases : List Alias) :
    Except GroupError ConversionGroup :=
  match addAll addEntry (empty name) entries with
  | .error fault => .error ⟨name, fault⟩
  | .ok group =>
      match addAll addAlias group aliases with
      | .error fault => .error ⟨name, fault⟩
      | .ok group => .ok group

end ConversionGroup

end AuditFields
