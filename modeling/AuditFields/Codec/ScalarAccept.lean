/-
Validation of single values.  A codec first looks at the kind of a candidate,
then turns it into a value, then checks the bounds.
-/
import AuditFields.Codec.Scalar
import AuditFields.Rejection

namespace AuditFields

/-- Refuse a number outside the bounds. -/
def Bounds.check (bounds : Bounds) (measure : Measure) (n : Int) : Except Rejection Unit :=
  if bounds.contains n then .ok () else .error (.constraint (.within bounds measure))

/-- Refuse a text whose number of characters is outside the bounds. -/
def Bounds.checkLength (bounds : Bounds) (s : String) : Except Rejection Unit :=
  bounds.check .characters s.length

/-- The number of an integer candidate of 64 bits without a sign. -/
def unsigned64 (n : Int) : Except Rejection UInt64 :=
  if 0 ≤ n ∧ n < 0x10000000000000000 then .ok (UInt64.ofNat n.toNat)
  else .error (.constraint .unsigned64)

/-- An identifier of a candidate; zero and null stand for none. -/
def acceptSnowflake {space : IdSpace} :
    Candidate → Except Rejection (Option (Snowflake space))
  | .null => .ok none
  | .integer n => (unsigned64 n).map Snowflake.ofUInt64?
  | .string s =>
      match Text.readInt128 s.toList with
      | .error _ => .error (.constraint .snowflakeText)
      | .ok n => (unsigned64 n).map Snowflake.ofUInt64?
  | .domain (.id id) => .ok (some id.cast)
  | _ => .error (.kind .id)

/-- A flag set of a candidate. -/
def acceptFlags (kind : FlagKind) (candidate : Candidate) : Except Rejection (FlagSet kind) :=
  let refused := Rejection.kind (if kind.isText then .flagsOrText else .flags)
  match candidate with
  | .integer n => (unsigned64 n).map FlagSet.mk
  | .string s =>
      if kind.isText then
        match Text.readUInt64 s.toList with
        | .ok n => .ok ⟨UInt64.ofNat n⟩
        | .error _ => .error (.constraint .bitSetText)
      else .error refused
  | .domain (.flags other flags) =>
      if h : other = kind then .ok (h ▸ flags) else .error refused
  | _ => .error refused

/-- A value of an enumeration of a candidate.  A code that is listed gives the
listed value, however the candidate held it. -/
def acceptEnum (kind : EnumKind) : Candidate → Except Rejection (EnumValue kind)
  | .integer n =>
      if 0 ≤ n ∧ n < 256 then .ok (.ofCode (UInt8.ofNat n.toNat))
      else .error (.constraint (.within (.between 0 255) .value))
  | .domain (.enum other value) =>
      if other = kind then .ok (.ofCode value.code) else .error (.kind .enum)
  | _ => .error (.kind .enum)

/-- A colour of a candidate. -/
def acceptColor : Candidate → Except Rejection Color
  | .integer n =>
      match if 0 ≤ n then Color.ofNat? n.toNat else none with
      | some color => .ok color
      | none => .error (.constraint (.within (.between 0 Color.maxValue) .value))
  | .string s =>
      match Color.ofText s with
      | .ok color => .ok color
      | .error _ => .error (.constraint .colorText)
  | .domain (.color color) => .ok color
  | _ => .error (.kind .color)

/-- A timestamp of a candidate.  Only a prebuilt one is asked for a year of four digits. -/
def acceptTimestamp : Candidate → Except Rejection (Option Timestamp)
  | .null => .ok none
  | .string s =>
      match Timestamp.ofText s with
      | .ok t => .ok (some t)
      | .error _ => .error (.constraint .timestampText)
  | .domain (.timestamp t) =>
      if t.isWireRepresentable then .ok (some t) else .error (.constraint .wireYears)
  | _ => .error (.kind .timestamp)

/-- An image hash of a candidate. -/
def acceptImageHash : Candidate → Except Rejection (Option ImageHash)
  | .null => .ok none
  | .string s =>
      match ImageHash.ofText s with
      | .ok hash => .ok (some hash)
      | .error _ => .error (.constraint .imageHashText)
  | .domain (.imageHash hash) => .ok (some hash)
  | _ => .error (.kind .imageHash)

/-- An integer of a candidate within bounds and within 64 bits. -/
def acceptInt (range : Bounds) (candidate : Candidate) : Except Rejection Int64 :=
  let checked (n : Int) : Except Rejection Int64 := do
    range.check .value n
    if -0x8000000000000000 ≤ n ∧ n < 0x8000000000000000 then .ok (Int64.ofInt n)
    else .error (.constraint .signed64)
  match candidate with
  | .integer n => checked n
  | .domain (.integer n) => checked n.toInt
  | _ => .error (.kind .int)

/-- The text of a candidate. -/
def Candidate.asString? : Candidate → Option String
  | .string s => some s
  | .domain (.string s) => some s
  | _ => none

/-- A text of a candidate within bounds. -/
def acceptText (length : Bounds) (candidate : Candidate) : Except Rejection String :=
  match candidate.asString? with
  | some s => (length.checkLength s).map fun _ => s
  | none => .error (.kind .text)

/-- A text of a candidate, where null and the empty text are none. -/
def acceptOptionalText (length : Bounds) (candidate : Candidate) :
    Except Rejection (Option String) :=
  match candidate with
  | .null => .ok none
  | candidate =>
      match candidate.asString? with
      | some s =>
          if s = "" then .ok none else (length.checkLength s).map fun _ => some s
      | none => .error (.kind .optionalText)

/-- An object of a candidate, where null and the empty object are none. -/
def acceptObject : Candidate → Except Rejection (Option WireObject)
  | .null => .ok none
  | .domain (.object members) => .ok (if members = [] then none else some members)
  | _ => .error (.kind .object)

/-- A switch of a candidate. -/
def acceptBool : Candidate → Except Rejection Bool
  | .bool value => .ok value
  | .domain (.bool value) => .ok value
  | _ => .error (.kind .bool)

namespace ScalarCodec

/-- Accept a candidate. -/
def accept : (codec : ScalarCodec) → Candidate → Except Rejection codec.Value
  | .bool _, candidate => acceptBool candidate
  | .int _ range, candidate => acceptInt range candidate
  | .text _ length _, candidate => acceptText length candidate
  | .optionalText length, candidate => acceptOptionalText length candidate
  | .color, candidate => acceptColor candidate
  | .id _, candidate => acceptSnowflake candidate
  | .flags kind, candidate => acceptFlags kind candidate
  | .enum kind _, candidate => acceptEnum kind candidate
  | .timestamp, candidate => acceptTimestamp candidate
  | .imageHash, candidate => acceptImageHash candidate
  | .object, candidate => acceptObject candidate

end ScalarCodec

/-- Validate a candidate for an attribute. -/
def ScalarField.validate (field : ScalarField) (candidate : Candidate) :
    Except ValidationError field.codec.Value :=
  match field.codec.accept candidate with
  | .ok value => .ok value
  | .error rejection => .error ⟨field.name, rejection, candidate.describe⟩

end AuditFields
