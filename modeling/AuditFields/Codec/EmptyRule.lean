/-
The rule for empty values: whether an attribute tells an empty list, set, text
or object from an unset one.
-/
import AuditFields.Json.Basic

namespace AuditFields

/-- How empty lists, sets, texts and objects are represented. -/
inductive EmptyRule where
  /-- They are kept as they are. -/
  | keep
  /-- They count as unset, and an unset list is written as an empty one. -/
  | unset
  deriving DecidableEq

namespace EmptyRule

/-- Name of the rule. -/
def name : EmptyRule → String
  | .keep => "keep"
  | .unset => "empty_as_none"

/-- Apply the rule. -/
def normalize {α : Type} (rule : EmptyRule) (isEmpty : α → Bool) (value : Option α) : Option α :=
  match rule with
  | .keep => value
  | .unset => value.filter fun value => !isEmpty value

/-- The wire form of an unset list. -/
def unsetList : EmptyRule → Json
  | .keep => .null
  | .unset => .array []

end EmptyRule

end AuditFields
