/-
Timestamp fields.  A prebuilt instant outside the years of four digits is
refused, but the text of one is let in where only its offset leaves those years.
Such an instant is written with a signed year, which is not read again.  Prebuilt
instants may lie in a leap second within a minute, which is written as another
instant.
-/
import AuditFields.Proofs.AcceptedValues
import AuditFields.Proofs.TimestampRange

namespace AuditFields

namespace Timestamp

/-- Instants that an offset could take out of the years of four digits. -/
def NearWireYears (t : Timestamp) : Prop :=
  firstWireSecond - maxOffset ≤ t.seconds ∧ t.seconds ≤ lastWireSecond + maxOffset

/-- What is to hold of an instant that is let in: it has a wire form, and is
read back from it. -/
def Survives (t : Timestamp) : Prop :=
  t.isWireRepresentable = true ∧
    Codec.timestamp.decode (some (Codec.timestamp.encode (some t))) = some t

theorem nearWireYears_of_ofText {s : String} {t : Timestamp} (ht : ofText s = .ok t) :
    t.NearWireYears :=
  seconds_bounds_of_ofChars? (ofChars?_of_ofText ht)

/-- The values that are read back: unset ones, and the instants that survive. -/
theorem decode_encode_eq_self_iff (value : Option Timestamp) :
    Codec.timestamp.decode (some (Codec.timestamp.encode value)) = value ↔
      ∀ t, value = some t → t.InWireYears ∧ t.LeapEndsMinute := by
  rw [Codec.decode_encode_iff]
  change (∀ t, value = some t → t.isWireRepresentable = true ∧ t.LeapEndsMinute) ↔ _
  exact forall₂_congr fun t _ => and_congr_left' t.isWireRepresentable_iff

theorem survives_iff (t : Timestamp) : t.Survives ↔ t.InWireYears ∧ t.LeapEndsMinute := by
  rw [Survives, decode_encode_eq_self_iff, isWireRepresentable_iff]
  simp only [Option.some.injEq, forall_eq', and_self_left]

/-- Of what text stands for, just the years of four digits survive. -/
theorem survives_iff_of_ofText {s : String} {t : Timestamp} (ht : ofText s = .ok t) :
    t.Survives ↔ t.InWireYears := by
  rw [survives_iff]
  exact and_iff_left (leapEndsMinute_of_ofText ht)

/-- What is read or accepted of a text is the instant that the text stands for. -/
theorem decode_string_eq_some_iff (s : String) (t : Timestamp) :
    Codec.timestamp.decode (some (.string s)) = some t ↔ ofText s = .ok t := by
  rw [Codec.decode, ScalarCodec.decode, Option.bind_some,
    Json.asTimestamp?_string_eq_some_iff]

theorem accept_string_eq_ok_iff (s : String) (t : Timestamp) :
    Codec.timestamp.accept (.string s) = .ok (some t) ↔ ofText s = .ok t := by
  simp only [Codec.accept, ScalarCodec.accept, acceptTimestamp]
  cases ofText s with
  | error e =>
      constructor
      · intro haccept
        contradiction
      · intro htext
        contradiction
  | ok u => simp

/-- What is read is an instant that a text stands for. -/
theorem leapEndsMinute_of_decode {raw : Option Json} {t : Timestamp}
    (ht : Codec.timestamp.decode raw = some t) : t.LeapEndsMinute := by
  obtain ⟨json, rfl, hjson⟩ := Option.bind_eq_some_iff.1 ht
  obtain ⟨s, hs, -⟩ := Option.bind_eq_some_iff.1 hjson
  cases json with
  | string s => exact leapEndsMinute_of_ofText ((decode_string_eq_some_iff s t).1 ht)
  | null | bool | number | array | object => contradiction

theorem inWireYears_of_accept_prebuilt {u t : Timestamp}
    (ht : Codec.timestamp.accept (.domain (.timestamp u)) = .ok (some t)) : t.InWireYears := by
  simp only [Codec.accept, ScalarCodec.accept, acceptTimestamp] at ht
  split at ht
  · rename_i hu
    rw [← isWireRepresentable_iff, ← Option.some.inj (Except.ok.inj ht)]
    exact hu
  · contradiction

end Timestamp

namespace Field

/-- A field of timestamps. -/
abbrev timestamp (name key : String) : Field :=
  ⟨name, key, .timestamp⟩

variable (name key : String)

/-- A timestamp field reads back what it wrote exactly when that is unset or an
instant of the years of four digits, and of no leap second within a minute. -/
theorem parse_put_timestamp_iff (value : Option Timestamp) (withDefaults : Bool)
    {data : WireObject} (habsent : data.get? key = none) :
    (timestamp name key).parse ((timestamp name key).put value withDefaults data) = value ↔
      ∀ t, value = some t → t.InWireYears ∧ t.LeapEndsMinute := by
  rw [parse_put_of_absent _ _ _ habsent]
  cases value with
  | none =>
      refine ⟨nofun, fun _ => ?_⟩
      split <;> rfl
  | some t =>
      have hwritten : (withDefaults || Codec.timestamp.alwaysWritten ||
          !Codec.timestamp.isDefault (some t)) = true := by
        simp [Codec.isDefault, ScalarCodec.isDefault]
      rw [if_pos hwritten]
      exact Timestamp.decode_encode_eq_self_iff (some t)

/-- The timestamps that are let in, from the wire or from outside, and how they
come out again.  Those of a text lie in the years of four digits or leave them
by less than a day, and only the former survive.  Prebuilt ones lie in these years,
and survive unless they are of a leap second within a minute. -/
theorem timestamp_readback_iff (withDefaults : Bool) :
    (∀ s t, Codec.timestamp.decode (some (.string s)) = some t →
      t.NearWireYears ∧ (t.Survives ↔ t.InWireYears)) ∧
    (∀ s t, Codec.timestamp.accept (.string s) = .ok (some t) →
      t.NearWireYears ∧ (t.Survives ↔ t.InWireYears)) ∧
    (∀ u t, Codec.timestamp.accept (.domain (.timestamp u)) = .ok (some t) →
      t.InWireYears ∧ (t.Survives ↔ t.LeapEndsMinute)) ∧
    (∀ candidate value (data : WireObject),
      (timestamp name key).validate candidate = .ok value → data.get? key = none →
      ((timestamp name key).parse ((timestamp name key).put value withDefaults data) = value ↔
        ∀ t, value = some t → t.InWireYears ∧ t.LeapEndsMinute)) ∧
    (∀ source value (data : WireObject),
      (timestamp name key).parse source = value → data.get? key = none →
      ((timestamp name key).parse ((timestamp name key).put value withDefaults data) = value ↔
        ∀ t, value = some t → t.InWireYears)) := by
  refine ⟨?_, ?_, ?_, ?_, ?_⟩
  · intro s t ht
    have htext := (Timestamp.decode_string_eq_some_iff s t).1 ht
    exact ⟨Timestamp.nearWireYears_of_ofText htext, Timestamp.survives_iff_of_ofText htext⟩
  · intro s t ht
    have htext := (Timestamp.accept_string_eq_ok_iff s t).1 ht
    exact ⟨Timestamp.nearWireYears_of_ofText htext, Timestamp.survives_iff_of_ofText htext⟩
  · intro u t ht
    have hyears := Timestamp.inWireYears_of_accept_prebuilt ht
    exact ⟨hyears, t.survives_iff.trans (and_iff_right hyears)⟩
  · intro candidate value data _ habsent
    exact parse_put_timestamp_iff name key value withDefaults habsent
  · rintro source value data hread habsent
    rw [parse_put_timestamp_iff name key value withDefaults habsent]
    refine forall₂_congr fun t ht => and_iff_left ?_
    exact Timestamp.leapEndsMinute_of_decode (hread.trans ht)

/-- A text two hours ahead of universal time, read, validated and put. -/
theorem timestamp_readback_ahead :
    Codec.timestamp.decode (some (.string "2021-01-01T03:01:01+02:00")) =
        some ⟨1609462861, 0, by decide⟩ ∧
      (timestamp "start" "start").validate (.string "2021-01-01T03:01:01+02:00") =
        .ok (some ⟨1609462861, 0, by decide⟩) ∧
      Timestamp.Survives ⟨1609462861, 0, by decide⟩ ∧
      (timestamp "start" "start").parse ((timestamp "start" "start").put
        (some ⟨1609462861, 0, by decide⟩) false []) =
        some ⟨1609462861, 0, by decide⟩ := by
  obtain ⟨hdecode, -, -, hput, -⟩ := timestamp_readback_iff "start" "start" false
  have hread : Codec.timestamp.decode (some (.string "2021-01-01T03:01:01+02:00")) =
      some ⟨1609462861, 0, by decide⟩ := by decide
  have haccept := (Timestamp.accept_string_eq_ok_iff _ _).2
    ((Timestamp.decode_string_eq_some_iff _ _).1 hread)
  have hvalid : (timestamp "start" "start").validate (.string "2021-01-01T03:01:01+02:00") =
      .ok (some ⟨1609462861, 0, by decide⟩) := by simp only [validate, haccept]
  have hyears : Timestamp.InWireYears ⟨1609462861, 0, by decide⟩ := ⟨by decide, by decide⟩
  refine ⟨hread, hvalid, (hdecode _ _ hread).2.2 hyears, ?_⟩
  refine (hput _ _ [] hvalid rfl).2 fun t ht => ?_
  rw [← Option.some.inj ht]
  exact ⟨hyears, by decide⟩

/-- A text that is let in although universal time is still in the year before
the year zero there: it is neither representable nor read back. -/
theorem timestamp_lost_before_year_zero :
    Codec.timestamp.decode (some (.string "0000-01-01T00:00:00+00:01")) =
        some ⟨-62167219260, 0, by decide⟩ ∧
      Codec.timestamp.accept (.string "0000-01-01T00:00:00+00:01") =
        .ok (some ⟨-62167219260, 0, by decide⟩) ∧
      Timestamp.isWireRepresentable ⟨-62167219260, 0, by decide⟩ = false ∧
      Codec.timestamp.decode (some (Codec.timestamp.encode
        (some ⟨-62167219260, 0, by decide⟩))) = none :=
  have hread : Codec.timestamp.decode (some (.string "0000-01-01T00:00:00+00:01")) =
      some ⟨-62167219260, 0, by decide⟩ := by decide
  ⟨hread, (Timestamp.accept_string_eq_ok_iff _ _).2
    ((Timestamp.decode_string_eq_some_iff _ _).1 hread), by decide, by decide⟩

end Field

end AuditFields
