/-
Validation of lists and sets of values.  The items are looked at in order, then
the list as a whole.
-/
import AuditFields.Codec.Basic
import AuditFields.Nested.Validate

namespace AuditFields

/-- The upper bound of an optional limit. -/
def Bounds.upTo (limit : Option Nat) : Bounds :=
  ⟨none, limit.map Int.ofNat⟩

namespace Codec

/-- Accept the items of an array in order; the first refusal counts. -/
def acceptItems {α : Type} (accept : Candidate → Except Rejection α) :
    List Candidate → Except Rejection (List α)
  | [] => .ok []
  | item :: rest =>
      match accept item with
      | .error rejection => .error rejection
      | .ok value => (acceptItems accept rest).map (value :: ·)

/-- Refuse too many items. -/
def checkCount (maxItems : Option Nat) (count : Nat) : Except Rejection Unit :=
  (Bounds.upTo maxItems).check .items count

/-- A text of a list, within its bound. -/
def acceptItemText (maxLength : Option Nat) (candidate : Candidate) : Except Rejection String :=
  match candidate.asString? with
  | some s => ((Bounds.upTo maxLength).checkLength s).map fun _ => s
  | none => .error (.kind .textList)

/-- Trim the items of a set.  An item with a comma would not read back. -/
def collectItems : List String → Except Rejection (List String)
  | [] => .ok []
  | item :: rest =>
      if item.toList.contains ',' then .error (.constraint .noCommas)
      else
        let item := Text.trimmed item
        (collectItems rest).map fun items => if item = "" then items else item :: items

/-- Accept a list of identifiers.  The bound counts repeated ones too. -/
def acceptIds {space : IdSpace} (maxItems : Option Nat) (candidate : Candidate) :
    Except Rejection (Option (List (Snowflake space))) :=
  let finish (ids : List (Snowflake space)) :=
    (checkCount maxItems ids.length).map fun _ => normalizeIds ids
  match candidate with
  | .null => .ok none
  | .array items =>
      match acceptItems acceptSnowflake items with
      | .error rejection => .error rejection
      | .ok ids => finish (ids.filterMap fun id => id)
  | .domain (.ids ids) => finish (ids.map Snowflake.cast)
  | _ => .error (.kind .idList)

/-- Accept a list of texts. -/
def acceptStrings (empties : EmptyRule) (maxLength maxItems : Option Nat)
    (candidate : Candidate) : Except Rejection (Option (List String)) :=
  let finish (strings : List String) :=
    (checkCount maxItems strings.length).map fun _ =>
      empties.normalize List.isEmpty (some strings)
  match candidate with
  | .null => .ok none
  | .array items =>
      match acceptItems (acceptItemText maxLength) items with
      | .error rejection => .error rejection
      | .ok strings => finish strings
  | .domain (.strings strings) =>
      match acceptItems (acceptItemText maxLength) (strings.map .string) with
      | .error rejection => .error rejection
      | .ok strings => finish strings
  | _ => .error (.kind .textList)

/-- The items of a set that a candidate holds. -/
def acceptSetItems : Candidate → Except Rejection (List String)
  | .null => .ok []
  | .string s => .ok (Text.commaItems s)
  | .array items =>
      match acceptItems (acceptItemText none) items with
      | .error rejection => .error rejection
      | .ok strings => collectItems strings
  | .domain (.stringSet set) => collectItems set.items
  | _ => .error (.kind .textSet)

/-- Accept a set of texts.  The bound is on its wire form. -/
def acceptTextSet (maxLength : Option Nat) (candidate : Candidate) :
    Except Rejection (Option TextSet) :=
  match acceptSetItems candidate with
  | .error rejection => .error rejection
  | .ok items =>
      match TextSet.ofItems? items with
      | none => .ok none
      | some set => ((Bounds.upTo maxLength).checkLength set.joined).map fun _ => some set

/-- The object of an item. -/
def acceptItemObject : Candidate → Except Rejection WireObject
  | .domain (.object members) => .ok members
  | _ => .error (.kind .objectList)

/-- Accept a list of objects. -/
def acceptObjects (maxItems : Option Nat) (candidate : Candidate) :
    Except Rejection (Option (List WireObject)) :=
  let finish (objects : List WireObject) :=
    (checkCount maxItems objects.length).map fun _ =>
      EmptyRule.unset.normalize List.isEmpty (some objects)
  match candidate with
  | .null => .ok none
  | .array items =>
      match acceptItems acceptItemObject items with
      | .error rejection => .error rejection
      | .ok objects => finish objects
  | .domain (.objects objects) => finish objects
  | _ => .error (.kind .objectList)

/-- The nested object of an item, every attribute validated. -/
def acceptItemNested (kind : NestedKind) (candidate : Candidate) :
    Except Rejection kind.Item :=
  match acceptItemObject candidate with
  | .error rejection => .error rejection
  | .ok members =>
      match kind.validate members with
      | .ok item => .ok item
      | .error e => .error (.member e.name e.rejection e.received)

/-- Accept a list of nested objects.  A prebuilt list is taken as it is. -/
def acceptNested (kind : NestedKind) (candidate : Candidate) :
    Except Rejection (Option (List kind.Item)) :=
  let finish (items : List kind.Item) :=
    EmptyRule.unset.normalize List.isEmpty (some items)
  match candidate with
  | .null => .ok none
  | .array items => (acceptItems (acceptItemNested kind) items).map finish
  | .domain (.nested other items) =>
      if h : other = kind then .ok (finish (h ▸ items)) else .error (.kind .objectList)
  | _ => .error (.kind .objectList)

/-- Accept a candidate. -/
def accept : (codec : Codec) → Candidate → Except Rejection codec.Value
  | .scalar codec, candidate => codec.accept candidate
  | .idArray _ maxItems, candidate => acceptIds maxItems candidate
  | .stringArray empties maxLength maxItems, candidate =>
      acceptStrings empties maxLength maxItems candidate
  | .stringSet maxLength, candidate => acceptTextSet maxLength candidate
  | .objectArray maxItems, candidate => acceptObjects maxItems candidate
  | .nestedArray kind, candidate => acceptNested kind candidate

end Codec

end AuditFields
