/-
Image hashes: icons, avatars, banners and splashes are named by sixteen bytes
in hexadecimal, after `a_` if the image moves.
-/
import AuditFields.Json.Mismatch

namespace AuditFields

/-- The name of an image. -/
structure ImageHash where
  animated : Bool
  bytes : List UInt8
  length_bytes : bytes.length = 16
  deriving DecidableEq

namespace ImageHash

/-- Why a text is no image hash. -/
inductive ParseError where
  | format
  deriving DecidableEq

def ParseError.message : ParseError → String
  | .format => "image hash is not 32 hexadecimal characters"

/-- The byte of a pair of characters.  The first may be a plus sign. -/
def byteOfPair? (high low : Char) : Option UInt8 :=
  match Text.readNatural 16 255 [high, low] with
  | .ok n => some (UInt8.ofNat n)
  | .error _ => none

/-- The bytes of a text of pairs. -/
def bytesOfPairs? : List Char → Option (List UInt8)
  | [] => some []
  | [_] => none
  | high :: low :: rest =>
      match byteOfPair? high low with
      | none => none
      | some byte => (bytesOfPairs? rest).map (byte :: ·)

/-- The hash of the digits after the mark. -/
def ofDigits (animated : Bool) (digits : List Char) : Except ParseError ImageHash :=
  match bytesOfPairs? digits with
  | none => .error .format
  | some bytes =>
      if h : bytes.length = 16 then .ok ⟨animated, bytes, h⟩ else .error .format

/-- Read a hash. -/
def ofText (s : String) : Except ParseError ImageHash :=
  match s.toList with
  | 'a' :: '_' :: digits => ofDigits true digits
  | digits => ofDigits false digits

/-- Text with small letters, which is also the wire form. -/
def text (hash : ImageHash) : String :=
  let digits := hash.bytes.flatMap fun byte => Text.padded 16 2 byte.toNat
  String.ofList (if hash.animated then 'a' :: '_' :: digits else digits)

def ofJson (json : Json) : Except Mismatch ImageHash := do
  let s ← json.stringOr "an image hash"
  match ofText s with
  | .ok hash => .ok hash
  | .error e => .error (.refused e.message)

def toJson (hash : ImageHash) : Json :=
  .string hash.text

end ImageHash

end AuditFields
