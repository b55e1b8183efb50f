/-
Flag sets: 64 switches of which some have names.  Bits without a name are kept.
-/
import AuditFields.Json.Mismatch

namespace AuditFields

/-- The kinds of flag sets that attributes use. -/
inductive FlagKind where
  | permissions
  | application
  | channel
  | role
  | systemChannel
  deriving DecidableEq

namespace FlagKind

def all : List FlagKind :=
  [.permissions, .application, .channel, .role, .systemChannel]

/-- Name of the kind as a type. -/
def typeName : FlagKind → String
  | .permissions => "Permissions"
  | .application => "ApplicationFlags"
  | .channel => "ChannelFlags"
  | .role => "RoleFlags"
  | .systemChannel => "SystemChannelFlags"

/-- Name of the kind in plain words. -/
def label : FlagKind → String
  | .permissions => "permissions"
  | .application => "application flags"
  | .channel => "channel flags"
  | .role => "role flags"
  | .systemChannel => "system channel flags"

/-- Whether the bits travel as decimal text.  Permissions need more bits than a
double holds. -/
def isText : FlagKind → Bool
  | .permissions => true
  | .application | .channel | .role | .systemChannel => false

/-- The named flags and the positions of their bits. -/
def names : FlagKind → List (String × Nat)
  | .permissions =>
      [("CREATE_INVITE", 0), ("KICK_MEMBERS", 1), ("BAN_MEMBERS", 2), ("ADMINISTRATOR", 3),
        ("MANAGE_CHANNELS", 4), ("MANAGE_GUILD", 5), ("ADD_REACTIONS", 6),
        ("VIEW_AUDIT_LOG", 7), ("PRIORITY_SPEAKER", 8), ("STREAM", 9), ("VIEW_CHANNEL", 10),
        ("SEND_MESSAGES", 11), ("SEND_TTS_MESSAGES", 12), ("MANAGE_MESSAGES", 13),
        ("EMBED_LINKS", 14), ("ATTACH_FILES", 15), ("READ_MESSAGE_HISTORY", 16),
        ("MENTION_EVERYONE", 17), ("USE_EXTERNAL_EMOJIS", 18), ("VIEW_GUILD_INSIGHTS", 19),
        ("CONNECT", 20), ("SPEAK", 21), ("MUTE_MEMBERS", 22), ("DEAFEN_MEMBERS", 23),
        ("MOVE_MEMBERS", 24), ("USE_VAD", 25), ("CHANGE_NICKNAME", 26),
        ("MANAGE_NICKNAMES", 27), ("MANAGE_ROLES", 28), ("MANAGE_WEBHOOKS", 29),
        ("MANAGE_GUILD_EXPRESSIONS", 30), ("USE_APPLICATION_COMMANDS", 31),
        ("REQUEST_TO_SPEAK", 32), ("MANAGE_EVENTS", 33), ("MANAGE_THREADS", 34),
        ("CREATE_PUBLIC_THREADS", 35), ("CREATE_PRIVATE_THREADS", 36),
        ("USE_EXTERNAL_STICKERS", 37), ("SEND_MESSAGES_IN_THREADS", 38),
        ("USE_EMBEDDED_ACTIVITIES", 39), ("MODERATE_MEMBERS", 40),
        ("VIEW_CREATOR_MONETIZATION_ANALYTICS", 41), ("USE_SOUNDBOARD", 42),
        ("CREATE_GUILD_EXPRESSIONS", 43), ("CREATE_EVENTS", 44),
        ("USE_EXTERNAL_SOUNDS", 45), ("SEND_VOICE_MESSAGES", 46)]
  | .application =>
      [("APPLICATION_AUTO_MODERATION_RULE_CREATE_BADGE", 6), ("GATEWAY_PRESENCE", 12),
        ("GATEWAY_PRESENCE_LIMITED", 13), ("GATEWAY_GUILD_MEMBERS", 14),
        ("GATEWAY_GUILD_MEMBERS_LIMITED", 15), ("VERIFICATION_PENDING_GUILD_LIMIT", 16),
        ("EMBEDDED", 17), ("GATEWAY_MESSAGE_CONTENT", 18),
        ("GATEWAY_MESSAGE_CONTENT_LIMITED", 19), ("APPLICATION_COMMAND_BADGE", 23)]
  | .channel =>
      [("PINNED", 1), ("REQUIRE_TAG", 4), ("HIDE_MEDIA_DOWNLOAD_OPTIONS", 15)]
  | .role => [("IN_PROMPT", 0)]
  | .systemChannel =>
      [("SUPPRESS_JOIN_NOTIFICATIONS", 0), ("SUPPRESS_PREMIUM_SUBSCRIPTIONS", 1),
        ("SUPPRESS_GUILD_REMINDER_NOTIFICATIONS", 2), ("SUPPRESS_JOIN_NOTIFICATION_REPLIES", 3),
        ("SUPPRESS_ROLE_SUBSCRIPTION_PURCHASE_NOTIFICATIONS", 4),
        ("SUPPRESS_ROLE_SUBSCRIPTION_PURCHASE_NOTIFICATION_REPLIES", 5)]

end FlagKind

/-- A flag set. -/
structure FlagSet (kind : FlagKind) where
  bits : UInt64
  deriving DecidableEq

namespace FlagSet

variable {kind : FlagKind}

def empty : FlagSet kind := ⟨0⟩

/-- Whether the flag at a position is set. -/
def hasBit (flags : FlagSet kind) (position : Nat) : Bool :=
  flags.bits.toNat.testBit position

/-- The named flags that are set. -/
def setNames (flags : FlagSet kind) : List (String × Nat) :=
  kind.names.filter fun flag => flags.hasBit flag.2

/-- The bits that are set and have no name. -/
def unnamedBits (flags : FlagSet kind) : Nat :=
  flags.setNames.foldl (fun rest flag => rest - 1 <<< flag.2) flags.bits.toNat

/-- Text of a set: the names in order, then the bits without one. -/
def text (flags : FlagSet kind) : String :=
  let rest := flags.unnamedBits
  let parts :=
    flags.setNames.map Prod.fst ++
      if rest = 0 ∧ flags.bits ≠ 0 then [] else ["0x" ++ Text.hexLower rest]
  kind.typeName ++ "(" ++ " | ".intercalate parts ++ ")"

/-- Wire form: a number, or decimal text. -/
def toJson (flags : FlagSet kind) : Json :=
  if kind.isText then .string (Text.decimal flags.bits.toNat) else .ofUInt64 flags.bits

end FlagSet

end AuditFields
