/-
Snowflakes: the identifiers of a chat service's objects.  A snowflake is an
unsigned 64 bit number other than zero, and it belongs to the space of one
kind of object.  On the wire it is decimal text.
-/
import AuditFields.Json.Mismatch

namespace AuditFields

/-- The kinds of objects that have identifiers of their own. -/
inductive IdSpace where
  | application
  | auditLogEntry
  | channel
  | command
  | emoji
  | generic
  | guild
  | integration
  | message
  | onboardingPrompt
  | onboardingPromptOption
  | role
  | scheduledEvent
  | scheduledEventEntity
  | sticker
  | tag
  | user
  | webhook
  | unnamed
  deriving DecidableEq

/-- Label of a space in diagnostics; one space goes without. -/
def IdSpace.label? : IdSpace → Option String
  | .application => some "ApplicationMarker"
  | .auditLogEntry => some "AuditLogEntryMarker"
  | .channel => some "ChannelMarker"
  | .command => some "CommandMarker"
  | .emoji => some "EmojiMarker"
  | .generic => some "GenericMarker"
  | .guild => some "GuildMarker"
  | .integration => some "IntegrationMarker"
  | .message => some "MessageMarker"
  | .onboardingPrompt => some "OnboardingPromptMarker"
  | .onboardingPromptOption => some "OnboardingPromptOptionMarker"
  | .role => some "RoleMarker"
  | .scheduledEvent => some "ScheduledEventMarker"
  | .scheduledEventEntity => some "ScheduledEventEntityMarker"
  | .sticker => some "StickerMarker"
  | .tag => some "TagMarker"
  | .user => some "UserMarker"
  | .webhook => some "WebhookMarker"
  | .unnamed => none

/-- An identifier within a space. -/
structure Snowflake (space : IdSpace) where
  value : UInt64
  ne_zero : value ≠ 0
  deriving DecidableEq

namespace Snowflake

variable {space : IdSpace}

/-- Snowflakes are ordered by value, which is the order of their creation. -/
instance : LT (Snowflake space) := ⟨fun a b => a.value < b.value⟩

instance : DecidableLT (Snowflake space) :=
  fun a b => inferInstanceAs (Decidable (a.value < b.value))

/-- The snowflake of a number; zero stands for none. -/
def ofUInt64? (value : UInt64) : Option (Snowflake space) :=
  if h : value = 0 then none else some ⟨value, h⟩

/-- The same number in another space. -/
def cast {other : IdSpace} (id : Snowflake space) : Snowflake other :=
  ⟨id.value, id.ne_zero⟩

@[simp] theorem cast_self (id : Snowflake space) : (id.cast : Snowflake space) = id := rfl

@[simp] theorem cast_cast {other third : IdSpace} (id : Snowflake space) :
    ((id.cast : Snowflake other).cast : Snowflake third) = id.cast := rfl

/-- Decimal text, which is also the wire form. -/
def text (id : Snowflake space) : String :=
  Text.decimal id.value.toNat

/-- Text that shows the space too. -/
def label (id : Snowflake space) : String :=
  match space.label? with
  | some name => "Id<" ++ name ++ ">(" ++ id.text ++ ")"
  | none => "Id(" ++ id.text ++ ")"

/-- Milliseconds since the Unix epoch at which the identifier was made.  The
high bits count from the start of the year 2015. -/
def timestampMs (id : Snowflake space) : Nat :=
  id.value.toNat >>> 22 + 1420070400000

/-- Read decimal text. -/
def ofText (s : String) : Except Text.NumeralError (Snowflake space) :=
  match Text.readUInt64 s.toList with
  | .error e => .error e
  | .ok n =>
      match ofUInt64? (UInt64.ofNat n) with
      | some id => .ok id
      | none => .error .zero

/-- Read a number or decimal text. -/
def ofJson (json : Json) : Except Mismatch (Snowflake space) :=
  match json with
  | .number (.int value _) =>
      match if 0 ≤ value then ofUInt64? (UInt64.ofNat value.toNat) else none with
      | some id => .ok id
      | none => .error (.wrongValue json "non zero u64")
  | .string s =>
      match ofText s with
      | .ok id => .ok id
      | .error _ => .error (.wrongValue json "a discord snowflake")
  | _ => .error (.wrongType json "a discord snowflake")

def toJson (id : Snowflake space) : Json :=
  .string id.text

end Snowflake

end AuditFields
