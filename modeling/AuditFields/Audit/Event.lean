/-
Audit log events: the actions that entries record, and the kind of object
whose changes each one reports.
-/
import AuditFields.Audit.Target

namespace AuditFields

/-- A listed action. -/
structure EventVariant where
  name : String
  code : UInt16
  target : Option ChangeTarget

namespace EventVariant

/-- The listed actions. -/
def all : List EventVariant :=
  [⟨"GuildUpdate", 1, some .guild⟩,
    ⟨"ChannelCreate", 10, some .channel⟩,
    ⟨"ChannelUpdate", 11, some .channel⟩,
    ⟨"ChannelDelete", 12, some .channel⟩,
    ⟨"ChannelOverwriteCreate", 13, some .permissionOverwrite⟩,
    ⟨"ChannelOverwriteUpdate", 14, some .permissionOverwrite⟩,
    ⟨"ChannelOverwriteDelete", 15, some .permissionOverwrite⟩,
    ⟨"MemberKick", 20, none⟩,
    ⟨"MemberPrune", 21, none⟩,
    ⟨"MemberBanAdd", 22, none⟩,
    ⟨"MemberBanRemove", 23, none⟩,
    ⟨"MemberUpdate", 24, some .member⟩,
    ⟨"MemberRoleUpdate", 25, some .member⟩,
    ⟨"MemberMove", 26, none⟩,
    ⟨"MemberDisconnect", 27, none⟩,
    ⟨"BotAdd", 28, none⟩,
    ⟨"RoleCreate", 30, some .role⟩,
    ⟨"RoleUpdate", 31, some .role⟩,
    ⟨"RoleDelete", 32, some .role⟩,
    ⟨"InviteCreate", 40, some .invite⟩,
    ⟨"InviteUpdate", 41, some .invite⟩,
    ⟨"InviteDelete", 42, some .invite⟩,
    ⟨"WebhookCreate", 50, some .webhook⟩,
    ⟨"WebhookUpdate", 51, some .webhook⟩,
    ⟨"WebhookDelete", 52, some .webhook⟩,
    ⟨"EmojiCreate", 60, some .emoji⟩,
    ⟨"EmojiUpdate", 61, some .emoji⟩,
    ⟨"EmojiDelete", 62, some .emoji⟩,
    ⟨"MessageDelete", 72, none⟩,
    ⟨"MessageBulkDelete", 73, none⟩,
    ⟨"MessagePin", 74, none⟩,
    ⟨"MessageUnpin", 75, none⟩,
    ⟨"IntegrationCreate", 80, some .integration⟩,
    ⟨"IntegrationUpdate", 81, some .integration⟩,
    ⟨"IntegrationDelete", 82, some .integration⟩,
    ⟨"StageInstanceCreate", 83, some .stageInstance⟩,
    ⟨"StageInstanceUpdate", 84, some .stageInstance⟩,
    ⟨"StageInstanceDelete", 85, some .stageInstance⟩,
    ⟨"StickerCreate", 90, some .sticker⟩,
    ⟨"StickerUpdate", 91, some .sticker⟩,
    ⟨"StickerDelete", 92, some .sticker⟩,
    ⟨"ScheduledEventCreate", 100, some .scheduledEvent⟩,
    ⟨"ScheduledEventUpdate", 101, some .scheduledEvent⟩,
    ⟨"ScheduledEventDelete", 102, some .scheduledEvent⟩,
    ⟨"ThreadCreate", 110, some .channel⟩,
    ⟨"ThreadUpdate", 111, some .channel⟩,
    ⟨"ThreadDelete", 112, some .channel⟩,
    ⟨"ApplicationCommandPermissionUpdate", 121, some .applicationCommand⟩,
    ⟨"AutoModerationRuleCreate", 140, some .autoModerationRule⟩,
    ⟨"AutoModerationRuleUpdate", 141, some .autoModerationRule⟩,
    ⟨"AutoModerationRuleDelete", 142, some .autoModerationRule⟩,
    ⟨"AutoModerationBlockMessage", 143, none⟩,
    ⟨"AutoModerationFlagToChannel", 144, none⟩,
    ⟨"AutoModerationUserCommunicationDisabled", 145, none⟩,
    ⟨"OnboardingPromptCreate", 163, some .onboardingPrompt⟩,
    ⟨"OnboardingPromptUpdate", 164, some .onboardingPrompt⟩,
    ⟨"OnboardingPromptDelete", 165, some .onboardingPrompt⟩,
    ⟨"OnboardingCreate", 166, some .onboarding⟩,
    ⟨"OnboardingUpdate", 167, some .onboarding⟩]

end EventVariant

/-- An action: one of the list, or a bare code. -/
inductive AuditEvent where
  | known (index : Fin EventVariant.all.length)
  | unknown (code : UInt16)
  deriving DecidableEq

namespace AuditEvent

/-- The action of a code.  A listed code gives the listed action. -/
def ofCode (code : UInt16) : AuditEvent :=
  match EventVariant.all.findFinIdx? fun variant => variant.code = code with
  | some index => .known index
  | none => .unknown code

def code : AuditEvent → UInt16
  | .known index => EventVariant.all[index].code
  | .unknown code => code

/-- The kind of object whose changes are reported, if any are. -/
def target : AuditEvent → Option ChangeTarget
  | .known index => EventVariant.all[index].target
  | .unknown _ => none

/-- Name in diagnostics. -/
def name : AuditEvent → String
  | .known index => EventVariant.all[index].name
  | .unknown code => "Unknown(" ++ Text.decimal code.toNat ++ ")"

def ofJson (json : Json) : Except Mismatch AuditEvent :=
  (json.boundedNat 65535 "u16").map fun n => ofCode (UInt16.ofNat n)

def toJson (event : AuditEvent) : Json :=
  .ofUInt64 event.code.toUInt64

end AuditEvent

end AuditFields
