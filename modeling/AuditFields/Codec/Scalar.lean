/-
Codecs of single values.  A codec says how one attribute is read from a wire
value, written back and recognised as its default.  Reading never fails: an
absent, null or malformed value gives the default.
-/
import AuditFields.Codec.Bounds
import AuditFields.Value.Color
import AuditFields.Value.Enumeration
import AuditFields.Value.FlagSet
import AuditFields.Value.ImageHash
import AuditFields.Value.Snowflake
import AuditFields.Value.Timestamp

namespace AuditFields

/-- The codec of an attribute that holds one value. -/
inductive ScalarCodec where
  /-- A switch. -/
  | bool (default : Bool)
  /-- A signed 64 bit integer. -/
  | int (default : Int64) (range : Bounds)
  /-- Text, its length counted in characters. -/
  | text (default : String) (length : Bounds) (always : Bool)
  /-- Text that may be unset; empty text is unset text. -/
  | optionalText (length : Bounds)
  /-- A colour as a number; black stands for none. -/
  | color
  /-- A snowflake as decimal text. -/
  | id (space : IdSpace)
  /-- A flag set. -/
  | flags (kind : FlagKind)
  /-- A value of an enumeration. -/
  | enum (kind : EnumKind) (always : Bool)
  /-- A timestamp. -/
  | timestamp
  /-- An image hash. -/
  | imageHash
  /-- An object kept as it is; an empty one is unset. -/
  | object
  deriving DecidableEq

/-- The number of a whole wire number, or of decimal text. -/
def Json.asUInt64? (json : Json) : Option UInt64 :=
  match json with
  | .string s =>
      match Text.readUInt64 s.toList with
      | .ok n => some (UInt64.ofNat n)
      | .error _ => none
  | json => json.asNat?.map UInt64.ofNat

/-- The listed or bare value of a wire code of eight bits. -/
def Json.asEnumValue? {kind : EnumKind} (json : Json) : Option (EnumValue kind) :=
  match json.asNat? with
  | some n => if n < 256 then some (.ofCode (UInt8.ofNat n)) else none
  | none => none

def Json.asColor? (json : Json) : Option Color :=
  json.asNat?.bind Color.ofNat?

def Json.asTimestamp? (json : Json) : Option Timestamp :=
  json.asString?.bind fun s => (Timestamp.ofText s).toOption

def Json.asImageHash? (json : Json) : Option ImageHash :=
  json.asString?.bind fun s => (ImageHash.ofText s).toOption

namespace ScalarCodec

/-- The values of a codec. -/
@[reducible] def Value : ScalarCodec → Type
  | .bool _ => Bool
  | .int _ _ => Int64
  | .text _ _ _ => String
  | .optionalText _ => Option String
  | .color => Color
  | .id space => Option (Snowflake space)
  | .flags kind => FlagSet kind
  | .enum kind _ => EnumValue kind
  | .timestamp => Option Timestamp
  | .imageHash => Option ImageHash
  | .object => Option WireObject

instance (codec : ScalarCodec) : DecidableEq codec.Value := by
  cases codec <;> unfold Value <;> infer_instance

/-- Read a wire value. -/
def decode : (codec : ScalarCodec) → Option Json → codec.Value
  | .bool default, raw => (raw.bind Json.asBool?).getD default
  | .int default _, raw => (raw.bind Json.asInt64?).getD default
  | .text default _ _, raw => (raw.bind Json.asString?).getD default
  | .optionalText _, raw => (raw.bind Json.asString?).filter fun s => s ≠ ""
  | .color, raw => (raw.bind Json.asColor?).getD .black
  | .id _, raw => (raw.bind Json.asUInt64?).bind Snowflake.ofUInt64?
  | .flags _, raw => ⟨(raw.bind Json.asUInt64?).getD 0⟩
  | .enum _ _, raw => (raw.bind Json.asEnumValue?).getD .default
  | .timestamp, raw => raw.bind Json.asTimestamp?
  | .imageHash, raw => raw.bind Json.asImageHash?
  | .object, raw => (raw.bind Json.asObject?).filter fun object => object ≠ []

/-- Whether a present wire value is read as it is. -/
def matchesWire : ScalarCodec → Json → Bool
  | .bool _, raw => raw.asBool?.isSome
  | .int _ _, raw => raw.asInt64?.isSome
  | .text _ _ _, raw => raw.asString?.isSome
  | .optionalText _, raw => raw.asString?.isSome
  | .color, raw => raw.asColor?.isSome
  | .id _, raw => raw.asUInt64?.isSome
  | .flags _, raw => raw.asUInt64?.isSome
  | .enum kind _, raw => (Json.asEnumValue? raw : Option (EnumValue kind)).isSome
  | .timestamp, raw => raw.asTimestamp?.isSome
  | .imageHash, raw => raw.asImageHash?.isSome
  | .object, raw => raw.asObject?.isSome

/-- Write a value. -/
def encode : (codec : ScalarCodec) → codec.Value → Json
  | .bool _, value => .bool value
  | .int _ _, value => .ofInt64 value
  | .text _ _ _, value => .string value
  | .optionalText _, value => value.elim .null .string
  | .color, value => .ofUInt32 value.toUInt32
  | .id _, value => value.elim .null fun id => .string id.text
  | .flags _, value => value.toJson
  | .enum _ _, value => .ofUInt8 value.code
  | .timestamp, value => value.elim .null fun t => .string t.text
  | .imageHash, value => value.elim .null fun hash => .string hash.text
  | .object, value => value.elim .null .object

/-- Whether a value is the one that an absent key stands for. -/
def isDefault : (codec : ScalarCodec) → codec.Value → Bool
  | .bool default, value => value = default
  | .int default _, value => value = default
  | .text default _ _, value => value = default
  | .optionalText _, value => value.isNone
  | .color, value => value = .black
  | .id _, value => value.isNone
  | .flags _, value => value.bits = 0
  | .enum _ _, value => value = .default
  | .timestamp, value => value.isNone
  | .imageHash, value => value.isNone
  | .object, value => value.isNone

/-- Whether the key is written for the default too. -/
def alwaysWritten : ScalarCodec → Bool
  | .text _ _ always => always
  | .enum _ always => always
  | .bool _ | .int _ _ | .optionalText _ | .color | .id _ | .flags _ | .timestamp
  | .imageHash | .object => false

end ScalarCodec

/-- An attribute that holds one value: its name, its wire key and its codec. -/
structure ScalarField where
  name : String
  key : String
  codec : ScalarCodec
  deriving DecidableEq

namespace ScalarField

/-- The field whose key is its name. -/
def named (name : String) (codec : ScalarCodec) : ScalarField :=
  ⟨name, name, codec⟩

/-- Read the attribute of an object. -/
def parse (field : ScalarField) (data : WireObject) : field.codec.Value :=
  field.codec.decode (data.get? field.key)

/-- Write the attribute into an object.  A default is left out unless defaults
are wanted or the codec always writes. -/
def put (field : ScalarField) (value : field.codec.Value) (withDefaults : Bool)
    (data : WireObject) : WireObject :=
  if withDefaults || field.codec.alwaysWritten || !field.codec.isDefault value then
    data.insert field.key (field.codec.encode value)
  else data

end ScalarField

end AuditFields
