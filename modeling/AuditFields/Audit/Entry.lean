/-
Conversion entries: how one audited attribute is read from a change, validated
and written back.
-/
import AuditFields.Audit.AttributeRule
import AuditFields.Field

namespace AuditFields

/-- The domain of the change values of a codec. -/
def Codec.domain : Codec → ValueDomain
  | .scalar (.bool _) => .bool
  | .scalar (.int _ _) => .integer
  | .scalar (.text _ _ _) => .string
  | .scalar (.optionalText _) => .string
  | .scalar .color => .color
  | .scalar (.id _) => .id
  | .scalar (.flags kind) => .flags kind
  | .scalar (.enum kind _) => .enum kind
  | .scalar .timestamp => .timestamp
  | .scalar .imageHash => .imageHash
  | .scalar .object => .object
  | .idArray _ _ => .ids
  | .stringArray _ _ _ => .strings
  | .stringSet _ => .stringSet
  | .objectArray _ => .objects
  | .nestedArray kind => .nested kind

/-- The reader and the validator that a declaration made.  Declarations of equal
fields stay apart by their labels. -/
structure Converter where
  label : String
  field : Field
  deriving DecidableEq

/-- An audited attribute of one kind of object. -/
structure ConversionEntry where
  name : String
  key : String
  domain : ValueDomain
  converter : Converter
  deriving DecidableEq

namespace ConversionEntry

/-- Declare the entry of a field. -/
def declare (owner : String) (field : Field) : ConversionEntry where
  name := field.name
  key := field.key
  domain := field.codec.domain
  converter := ⟨owner ++ "." ++ field.name, field⟩

/-- Declare the entry of a field under a domain that stands beside it.  Nothing
here compares the two. -/
def declareAs (owner : String) (domain : ValueDomain) (field : Field) : ConversionEntry :=
  { declare owner field with domain }

/-- Read one side. -/
def get (entry : ConversionEntry) (raw : Option Json) : Option ChangeValue :=
  entry.converter.field.parseChange raw

/-- Validate a candidate for one side. -/
def validate (entry : ConversionEntry) (candidate : Candidate) :
    Except ValidationError (Option ChangeValue) :=
  entry.converter.field.validateChange candidate

/-- The entry with some of its parts replaced. -/
def override (entry : ConversionEntry) (name key : Option String)
    (domain : Option ValueDomain) : ConversionEntry :=
  { entry with
    name := name.getD entry.name
    key := key.getD entry.key
    domain := domain.getD entry.domain }

/-- Text of an entry in diagnostics. -/
def text (entry : ConversionEntry) : String :=
  "ConversionEntry \x7b attribute_name: " ++ Text.quoted entry.name ++ ", wire_key: " ++
    Text.quoted entry.key ++ ", domain: " ++ entry.domain.typeName ++ ", .. \x7d"

end ConversionEntry

/-- An entry as its users hold it: the declared one itself, or a copy. -/
structure EntryRef where
  entry : ConversionEntry
  copied : Bool
  deriving DecidableEq

/-- Whether two references are to one declared entry.  A copy is only itself. -/
def EntryRef.isSame (a b : EntryRef) : Bool :=
  !a.copied && !b.copied && a.entry = b.entry

/-- What a wire key reports of an attribute: its value, or what was added to it
or removed from it. -/
inductive Placement where
  | direct
  | added
  | removed
  deriving DecidableEq

namespace Placement

def name : Placement → String
  | .direct => "direct"
  | .added => "added"
  | .removed => "removed"

def ofName? (name : String) : Option Placement :=
  [direct, added, removed].find? fun placement => placement.name = name

end Placement

/-- An entry found in a group, with the group's rules for it. -/
structure Resolved where
  entry : ConversionEntry
  placement : Placement
  empties : EmptyRule
  deriving DecidableEq

namespace Resolved

/-- Read one side of a change. -/
def get (resolved : Resolved) (raw : Option Json) : Option ChangeValue :=
  resolved.empties.normalizeSide (resolved.entry.get raw)

/-- Write one side of a change.  An unset list is written by the rule for
empty values. -/
def put (resolved : Resolved) (side : Option ChangeValue) : Json :=
  match side with
  | none => if resolved.entry.domain.isSequence then resolved.empties.unsetList else .null
  | some value => value.toWire

/-- Validate a candidate for one side of a change. -/
def validate (resolved : Resolved) (candidate : Candidate) :
    Except ValidationError (Option ChangeValue) :=
  (resolved.entry.validate candidate).map resolved.empties.normalizeSide

end Resolved

end AuditFields
