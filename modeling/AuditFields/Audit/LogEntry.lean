/-
Entries of an audit log: an action, who did it to what, and the changes made.
-/
import AuditFields.Audit.Change
import AuditFields.Audit.Event

namespace AuditFields

/-- An entry of an audit log. -/
structure AuditEntry where
  id : Option (Snowflake .auditLogEntry)
  event : AuditEvent
  userId : Option (Snowflake .user)
  targetId : Option (Snowflake .generic)
  reason : Option String
  changes : List AuditChange
  deriving DecidableEq

namespace AuditEntry

def idField : Field := .named "id" (.id .auditLogEntry)

def actionField : Field := .named "action_type" (.int 0 (.atLeast 0))

def userIdField : Field := .named "user_id" (.id .user)

def targetIdField : Field := .named "target_id" (.id .generic)

def reasonField : Field := .named "reason" (.optionalText (.atMost 512))

def changesField : Field := .named "changes" (.objectArray none)

/-- The action of a number.  Numbers that are no code of sixteen bits all stand
for the last code, as an unknown one. -/
def eventOfNumber (n : Int64) : AuditEvent :=
  if 0 ≤ n.toInt ∧ n.toInt < 0x10000 then .ofCode (UInt16.ofNat n.toInt.toNat)
  else .unknown 65535

/-- The number of an action. -/
def numberOfEvent (event : AuditEvent) : Int64 :=
  Int64.ofNat event.code.toNat

/-- Read an entry.  Its changes are read for the kind of object that its action
reports of. -/
def ofWire (data : WireObject) : AuditEntry :=
  let event := eventOfNumber (actionField.parse data)
  let changes : Option (List WireObject) := changesField.parse data
  { id := idField.parse data
    event
    userId := userIdField.parse data
    targetId := targetIdField.parse data
    reason := reasonField.parse data
    changes := (changes.getD []).filterMap (AuditChange.ofWire? event.target) }

/-- Write an entry.  An empty list of changes counts as a default. -/
def toWire (entry : AuditEntry) (withDefaults : Bool) : WireObject :=
  let data := ([] : WireObject)
    |> idField.put entry.id withDefaults
    |> actionField.put (numberOfEvent entry.event) withDefaults
    |> userIdField.put entry.userId withDefaults
    |> targetIdField.put entry.targetId withDefaults
    |> reasonField.put entry.reason withDefaults
  if withDefaults || !entry.changes.isEmpty then
    WireObject.insert changesField.key
      (.array (entry.changes.map fun change => .object (change.toWire entry.event.target))) data
  else data

end AuditEntry

end AuditFields
