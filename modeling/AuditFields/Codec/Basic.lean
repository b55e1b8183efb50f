/-
Codecs of attributes: single values, and lists and sets of values.  A list
reads the items it understands and drops the others.
-/
import AuditFields.Change.Value
import AuditFields.Text.Blank

namespace AuditFields

/-- The change value of a value; unset values have none. -/
def ScalarCodec.toChange : (codec : ScalarCodec) → codec.Value → Option ChangeValue
  | .bool _, value => some (.bool value)
  | .int _ _, value => some (.integer value)
  | .text _ _ _, value => some (.string value)
  | .optionalText _, value => value.map .string
  | .color, value => some (.color value)
  | .id _, value => value.map fun id => .id id.cast
  | .flags kind, value => some (.flags kind value)
  | .enum kind _, value => some (.enum kind value)
  | .timestamp, value => value.map .timestamp
  | .imageHash, value => value.map .imageHash
  | .object, value => value.map .object

/-- The codec of an attribute. -/
inductive Codec where
  /-- One value. -/
  | scalar (codec : ScalarCodec)
  /-- Snowflakes in ascending order, each once; an empty list is unset. -/
  | idArray (space : IdSpace) (maxItems : Option Nat)
  /-- Texts in the order given. -/
  | stringArray (empties : EmptyRule) (maxLength : Option Nat) (maxItems : Option Nat)
  /-- A set of texts, sent as one text with commas; an empty set is unset. -/
  | stringSet (maxLength : Option Nat)
  /-- Objects kept as they are; an empty list is unset. -/
  | objectArray (maxItems : Option Nat)
  /-- Nested objects; an empty list is unset. -/
  | nestedArray (kind : NestedKind)
  deriving DecidableEq

/-- The set of some items, if there are any. -/
def TextSet.ofItems? (items : List String) : Option TextSet :=
  EmptyRule.unset.normalize (fun set => set.items.isEmpty) (some (ofList items))

namespace Codec

abbrev bool (default : Bool) : Codec := .scalar (.bool default)

abbrev int (default : Int64) (range : Bounds) : Codec := .scalar (.int default range)

abbrev text (default : String) (length : Bounds) (always : Bool) : Codec :=
  .scalar (.text default length always)

abbrev optionalText (length : Bounds) : Codec := .scalar (.optionalText length)

abbrev color : Codec := .scalar .color

abbrev id (space : IdSpace) : Codec := .scalar (.id space)

abbrev flags (kind : FlagKind) : Codec := .scalar (.flags kind)

abbrev enum (kind : EnumKind) (always : Bool) : Codec := .scalar (.enum kind always)

abbrev timestamp : Codec := .scalar .timestamp

abbrev imageHash : Codec := .scalar .imageHash

abbrev object : Codec := .scalar .object

/-- The values of a codec. -/
@[reducible] def Value : Codec → Type
  | .scalar codec => codec.Value
  | .idArray space _ => Option (List (Snowflake space))
  | .stringArray _ _ _ => Option (List String)
  | .stringSet _ => Option TextSet
  | .objectArray _ => Option (List WireObject)
  | .nestedArray kind => Option (List kind.Item)

instance (codec : Codec) : DecidableEq codec.Value := by
  cases codec <;> unfold Value <;> infer_instance

/-- The ascending list of identifiers, unset if there are none. -/
def normalizeIds {space : IdSpace} (ids : List (Snowflake space)) :
    Option (List (Snowflake space)) :=
  EmptyRule.unset.normalize List.isEmpty (some (Ascending.ofList ids))

/-- The identifier of an item, if it has one. -/
def itemId? {space : IdSpace} (item : Json) : Option (Snowflake space) :=
  item.asUInt64?.bind Snowflake.ofUInt64?

/-- Read a text set: a text with commas, or an array of texts taken whole. -/
def decodeTextSet : Json → Option TextSet
  | .string s => TextSet.ofItems? (Text.commaItems s)
  | .array items => TextSet.ofItems? (items.filterMap Json.asString?)
  | _ => none

/-- Read a wire value. -/
def decode : (codec : Codec) → Option Json → codec.Value
  | .scalar codec, raw => codec.decode raw
  | .idArray _ _, raw =>
      (raw.bind Json.asArray?).bind fun items => normalizeIds (items.filterMap itemId?)
  | .stringArray empties _ _, raw =>
      (raw.bind Json.asArray?).bind fun items =>
        empties.normalize List.isEmpty (some (items.filterMap Json.asString?))
  | .stringSet _, raw => raw.bind decodeTextSet
  | .objectArray _, raw =>
      (raw.bind Json.asArray?).bind fun items =>
        EmptyRule.unset.normalize List.isEmpty (some (items.filterMap Json.asObject?))
  | .nestedArray kind, raw =>
      (raw.bind Json.asArray?).bind fun items =>
        EmptyRule.unset.normalize List.isEmpty
          (some ((items.filterMap Json.asObject?).map kind.ofWire))

/-- Whether a wire value is an array whose items all pass. -/
def allItems (test : Json → Bool) : Json → Bool
  | .array items => items.all test
  | _ => false

/-- Whether a present wire value is read as it is. -/
def matchesWire : Codec → Json → Bool
  | .scalar codec, raw => codec.matchesWire raw
  | .idArray _ _, raw => allItems (fun item => item.asUInt64?.isSome) raw
  | .stringArray _ _ _, raw => allItems (fun item => item.asString?.isSome) raw
  | .stringSet _, raw =>
      raw.asString?.isSome || allItems (fun item => item.asString?.isSome) raw
  | .objectArray _, raw => allItems (fun item => item.asObject?.isSome) raw
  | .nestedArray _, raw => allItems (fun item => item.asObject?.isSome) raw

/-- Write a value. -/
def encode : (codec : Codec) → codec.Value → Json
  | .scalar codec, value => codec.encode value
  | .idArray _ _, value =>
      value.elim EmptyRule.unset.unsetList fun ids => .array (ids.map fun id => .string id.text)
  | .stringArray empties _ _, value =>
      value.elim empties.unsetList fun strings => .array (strings.map Json.string)
  | .stringSet _, value => .string (value.elim "" TextSet.joined)
  | .objectArray _, value => .array ((value.getD []).map Json.object)
  | .nestedArray kind, value => kind.listToJson (value.getD [])

/-- Whether a value is the one that an absent key stands for. -/
def isDefault : (codec : Codec) → codec.Value → Bool
  | .scalar codec, value => codec.isDefault value
  | .idArray _ _, value => value.isNone
  | .stringArray _ _ _, value => value.isNone
  | .stringSet _, value => value.isNone
  | .objectArray _, value => value.isNone
  | .nestedArray _, value => value.isNone

/-- Whether the key is written for the default too. -/
def alwaysWritten : Codec → Bool
  | .scalar codec => codec.alwaysWritten
  | .idArray _ _ | .stringArray _ _ _ | .stringSet _ | .objectArray _ | .nestedArray _ => false

/-- The change value of a value; unset values have none. -/
def toChange : (codec : Codec) → codec.Value → Option ChangeValue
  | .scalar codec, value => codec.toChange value
  | .idArray _ _, value => value.map fun ids => .ids (ids.map Snowflake.cast)
  | .stringArray _ _ _, value => value.map .strings
  | .stringSet _, value => value.map .stringSet
  | .objectArray _, value => value.map .objects
  | .nestedArray kind, value => value.map (.nested kind)

end Codec

end AuditFields
