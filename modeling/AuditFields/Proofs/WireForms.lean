/-
The wire forms of single values.  Each value is read back from the number or
text it is written as.
-/
import AuditFields.Codec.Scalar
import AuditFields.Proofs.NumeralReadback

namespace AuditFields

/-- A reader that forgets why it failed gives what it succeeds with. -/
theorem toOption_eq_some_iff {ε α : Type} {result : Except ε α} {value : α} :
    result.toOption = some value ↔ result = .ok value := by
  cases result <;> simp [Except.toOption]

namespace Json

@[simp] theorem asNat?_ofInt (n : Nat) (range) : (ofInt n range).asNat? = some n := rfl

theorem asNat?_int (value : Int) (range) :
    (number (.int value range)).asNat? = if 0 ≤ value then some value.toNat else none := by
  cases value <;> rfl

@[simp] theorem asInt64?_ofInt64 (value : Int64) : (ofInt64 value).asInt64? = some value := by
  have hlt : value.toInt < 0x8000000000000000 := value.toInt_lt
  simp only [ofInt64, ofInt, asInt64?, asInt?, hlt, if_true, Int64.ofInt_toInt]

@[simp] theorem asUInt64?_decimal (n : UInt64) :
    (Json.string (Text.decimal n.toNat)).asUInt64? = some n := by
  simp [asUInt64?]

@[simp] theorem asUInt64?_ofUInt64 (n : UInt64) : (ofUInt64 n).asUInt64? = some n := by
  change (ofUInt64 n).asNat?.map UInt64.ofNat = some n
  simp [ofUInt64]

/-- A number is the same on the wire in however many bits it is serialized. -/
theorem ofUInt64_ofUInt32 (n : UInt32) : ofUInt64 n.toUInt64 = ofUInt32 n := by
  simp only [ofUInt64, ofUInt32, UInt32.toNat_toUInt64]

theorem ofUInt64_ofUInt8 (n : UInt8) : ofUInt64 n.toUInt64 = ofUInt8 n := by
  simp only [ofUInt64, ofUInt8, UInt8.toNat_toUInt64]

theorem asTimestamp?_string_eq_some_iff {s : String} {t : Timestamp} :
    (Json.string s).asTimestamp? = some t ↔ Timestamp.ofText s = .ok t := by
  rw [asTimestamp?, asString?, Option.bind_some, toOption_eq_some_iff]

theorem asImageHash?_string_eq_some_iff {s : String} {hash : ImageHash} :
    (Json.string s).asImageHash? = some hash ↔ ImageHash.ofText s = .ok hash := by
  rw [asImageHash?, asString?, Option.bind_some, toOption_eq_some_iff]

end Json

namespace Snowflake

variable {space : IdSpace}

@[simp] theorem asUInt64?_text (id : Snowflake space) :
    (Json.string id.text).asUInt64? = some id.value :=
  Json.asUInt64?_decimal id.value

@[simp] theorem ofUInt64?_value (id : Snowflake space) : ofUInt64? id.value = some id := by
  rw [ofUInt64?, dif_neg id.ne_zero]

end Snowflake

namespace FlagSet

@[simp] theorem asUInt64?_toJson {kind : FlagKind} (flags : FlagSet kind) :
    flags.toJson.asUInt64? = some flags.bits := by
  rw [toJson]
  split
  · exact Json.asUInt64?_decimal flags.bits
  · exact Json.asUInt64?_ofUInt64 flags.bits

end FlagSet

namespace EnumValue

variable {kind : EnumKind}

@[simp] theorem code_ofCode (code : UInt8) : (ofCode code : EnumValue kind).code = code := by
  rw [ofCode]
  split
  · rename_i index hfound
    have hcode := (List.findFinIdx?_eq_some_iff.1 hfound).1
    exact of_decide_eq_true hcode
  · rfl

/-- The default of every enumeration is the listed value of its code. -/
@[simp] theorem ofCode_default :
    ofCode (default : EnumValue kind).code = (default : EnumValue kind) := by
  cases kind <;> decide

@[simp] theorem asEnumValue?_ofUInt8 (code : UInt8) :
    (Json.ofUInt8 code).asEnumValue? = some (ofCode code : EnumValue kind) := by
  have hlt := code.toNat_lt
  simp [Json.ofUInt8, Json.asEnumValue?, hlt]

end EnumValue

namespace Color

@[simp] theorem ofNat?_toNat (color : Color) : ofNat? color.toNat = some color := by
  have hgreen := color.green.toNat_lt
  have hblue := color.blue.toNat_lt
  have hred : color.toNat / 65536 = color.red.toNat := by
    rw [toNat]
    omega
  have hmiddle : color.toNat / 256 = color.red.toNat * 256 + color.green.toNat := by
    rw [toNat]
    omega
  rw [ofNat?, if_pos color.toNat_le, hred, hmiddle]
  simp [toNat, UInt8.ofNat_add, UInt8.ofNat_mul]

/-- The shifted parts share no bits, so that they add up. -/
@[simp] theorem toNat_toUInt32 (color : Color) : color.toUInt32.toNat = color.toNat := by
  have hred := color.red.toNat_lt
  have hgreen := color.green.toNat_lt
  have hhigh := Nat.shiftLeft_add_eq_or_of_lt hgreen color.red.toNat
  have hall := Nat.shiftLeft_add_eq_or_of_lt color.blue.toNat_lt
    (color.red.toNat <<< 8 + color.green.toNat)
  calc
    color.toUInt32.toNat =
        color.red.toNat <<< 16 ||| color.green.toNat <<< 8 ||| color.blue.toNat := by
      have hredLt : color.red.toNat <<< 16 < 4294967296 := by omega
      have hgreenLt : color.green.toNat <<< 8 < 4294967296 := by omega
      simp [toUInt32, Nat.mod_eq_of_lt hredLt, Nat.mod_eq_of_lt hgreenLt]
    _ = (color.red.toNat <<< 8 ||| color.green.toNat) <<< 8 ||| color.blue.toNat := by
      rw [Nat.shiftLeft_or_distrib, ← Nat.shiftLeft_add]
    _ = color.toNat := by
      rw [← hhigh, ← hall, toNat]
      omega

@[simp] theorem asColor?_ofUInt32 (color : Color) :
    (Json.ofUInt32 color.toUInt32).asColor? = some color := by
  rw [Json.ofUInt32, Json.asColor?, Json.asNat?_ofInt, Option.bind_some, toNat_toUInt32,
    ofNat?_toNat]

end Color

namespace ImageHash

open Text

/-- The two digits of a byte are read as the byte. -/
theorem bytesOfPairs?_flatMap (bytes : List UInt8) :
    bytesOfPairs? (bytes.flatMap fun byte => padded 16 2 byte.toNat) = some bytes := by
  induction bytes with
  | nil => rfl
  | cons byte bytes ih =>
      have hbyte := byte.toNat_lt
      have hlength : (padded 16 2 byte.toNat).length = 2 :=
        length_padded ((Nat.length_toDigits_le_iff (by decide) (by decide)).2 hbyte)
      obtain ⟨high, low, hpair⟩ : ∃ high low, padded 16 2 byte.toNat = [high, low] := by
        match padded 16 2 byte.toNat, hlength with
        | [high, low], _ => exact ⟨high, low, rfl⟩
      have hread : readNatural 16 255 [high, low] = .ok byte.toNat := by
        rw [← hpair]
        exact readNatural_padded (by decide) (by decide) 2 (by omega)
      rw [List.flatMap_cons, hpair]
      simp [bytesOfPairs?, byteOfPair?, hread, ih]

/-- Digits are never taken for the mark of a moving image. -/
theorem ofText_ofList_digits {digits : List Char}
    (hdigits : ∀ c ∈ digits, (digitValue? 16 c).isSome) :
    ofText (String.ofList digits) = ofDigits false digits := by
  rw [ofText, String.toList_ofList]
  split
  · have hmark := hdigits '_' (by simp)
    simp [digitValue?] at hmark
  · rfl

@[simp] theorem ofText_text (hash : ImageHash) : ofText hash.text = .ok hash := by
  have hdigits : ∀ c ∈ hash.bytes.flatMap fun byte => padded 16 2 byte.toNat,
      (digitValue? 16 c).isSome := by
    intro c hc
    obtain ⟨byte, -, hc⟩ := List.mem_flatMap.1 hc
    exact (isNumeral_padded (by decide) (by decide) 2 byte.toNat).digits c hc
  have hbytes := bytesOfPairs?_flatMap hash.bytes
  cases hanimated : hash.animated with
  | true =>
      simp only [text, hanimated, if_true, ofText, String.toList_ofList]
      simp [ofDigits, hbytes, hash.length_bytes, ← hanimated]
  | false =>
      simp only [text, hanimated, Bool.false_eq_true, if_false]
      rw [ofText_ofList_digits hdigits]
      simp [ofDigits, hbytes, hash.length_bytes, ← hanimated]

@[simp] theorem asImageHash?_text (hash : ImageHash) :
    (Json.string hash.text).asImageHash? = some hash :=
  Json.asImageHash?_string_eq_some_iff.2 hash.ofText_text

end ImageHash

end AuditFields
