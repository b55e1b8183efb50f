/-
Changes: what an audit log reports of one attribute, before and after.  Either
side may be unset.  An attribute without a conversion keeps its wire values.
-/
import AuditFields.Audit.Target

namespace AuditFields

/-- A change of one attribute. -/
structure AuditChange where
  name : String
  before : Option ChangeValue
  after : Option ChangeValue
  deriving DecidableEq

/-- Why no change could be made from outside. -/
inductive ChangeError where
  | unknownAttribute (target : ChangeTarget) (name : String)
  | invalid (source : ValidationError)
  deriving DecidableEq

namespace ChangeError

def message : ChangeError → String
  | .unknownAttribute target name => target.name ++ " has no attribute `" ++ name ++ "`"
  | .invalid _ => "change value is invalid"

/-- The refused candidate, if one was refused. -/
def source : ChangeError → Option ValidationError
  | .unknownAttribute _ _ => none
  | .invalid source => some source

end ChangeError

namespace AuditChange

/-- Read a change.  Without a key there is none; without a target, or with a
key that the target does not resolve, the sides stay as they came.  A key of
added values gives the later side and a key of removed values the earlier. -/
def ofWire? (target : Option ChangeTarget) (data : WireObject) : Option AuditChange :=
  match (data.get? "key").bind Json.asString? with
  | none => none
  | some key =>
      let old := data.get? "old_value"
      let new := data.get? "new_value"
      match target.bind fun target => target.resolveKey key with
      | none => some ⟨key, ChangeValue.sideOfRaw old, ChangeValue.sideOfRaw new⟩
      | some resolved =>
          match resolved.placement with
          | .direct => some ⟨resolved.entry.name, resolved.get old, resolved.get new⟩
          | .added => some ⟨resolved.entry.name, none, resolved.get new⟩
          | .removed => some ⟨resolved.entry.name, resolved.get new, none⟩

/-- Validate a candidate for one side; null leaves the side unset. -/
def validateSide (resolved : Resolved) : Candidate → Except ChangeError (Option ChangeValue)
  | .null => .ok none
  | candidate =>
      match resolved.validate candidate with
      | .ok side => .ok side
      | .error source => .error (.invalid source)

/-- Make a change from candidates for both sides. -/
def validated (target : ChangeTarget) (name : String) (before after : Candidate) :
    Except ChangeError AuditChange :=
  match target.resolveName name with
  | none => .error (.unknownAttribute target name)
  | some resolved => do
      let before ← validateSide resolved before
      let after ← validateSide resolved after
      return ⟨resolved.entry.name, before, after⟩

/-- Write a key and the sides that are set. -/
def writeSides (key : String) (put : Option ChangeValue → Json)
    (before after : Option ChangeValue) : WireObject :=
  let data := WireObject.insert "key" (.string key) []
  let data := if before.isSome then data.insert "old_value" (put before) else data
  if after.isSome then data.insert "new_value" (put after) else data

/-- The key and the value of a change of one side, where the group has a key
that reports what was added or removed. -/
def aliasSide? (change : AuditChange) (group : ConversionGroup) :
    Option (String × ChangeValue) :=
  match change.before, change.after with
  | none, some after => (group.aliasKey change.name .added).map fun key => (key, after)
  | some before, none => (group.aliasKey change.name .removed).map fun key => (key, before)
  | _, _ => none

/-- Write a change. -/
def toWire (change : AuditChange) (target : Option ChangeTarget) : WireObject :=
  let unconverted :=
    writeSides change.name ChangeValue.sideToWire change.before change.after
  match target.bind ChangeTarget.group? with
  | none => unconverted
  | some group =>
      match group.resolveName change.name with
      | none => unconverted
      | some resolved =>
          match change.aliasSide? group with
          | some (key, value) => writeSides key resolved.put none (some value)
          | none => writeSides resolved.entry.key resolved.put change.before change.after

/-- Whether a side was kept as it came. -/
def isRaw (change : AuditChange) : Bool :=
  [change.before, change.after].any fun side =>
    match side with
    | some (.raw _) => true
    | _ => false

end AuditChange

end AuditFields
