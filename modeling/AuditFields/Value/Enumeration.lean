/-
Enumerations: small closed lists of named codes.  A code outside the list is
kept as an unknown value, so that a newer service loses nothing.
-/
import AuditFields.Json.Mismatch

namespace AuditFields

/-- One listed value of an enumeration. -/
structure Variant where
  name : String
  code : UInt8
  label : String
  deriving DecidableEq

/-- The enumerations that attributes use. -/
inductive EnumKind where
  | channelType
  | sortOrder
  | forumLayout
  | videoQualityMode
  | verificationLevel
  | contentFilterLevel
  | messageNotificationLevel
  | mfaLevel
  | nsfwLevel
  | privacyLevel
  | scheduledEventEntityType
  | scheduledEventStatus
  | permissionOverwriteTargetType
  | autoModerationEventType
  | autoModerationTriggerType
  | onboardingMode
  | onboardingPromptType
  | stickerFormat
  | integrationExpireBehavior
  deriving DecidableEq

namespace EnumKind

def all : List EnumKind :=
  [.channelType, .sortOrder, .forumLayout, .videoQualityMode, .verificationLevel,
    .contentFilterLevel, .messageNotificationLevel, .mfaLevel, .nsfwLevel, .privacyLevel,
    .scheduledEventEntityType, .scheduledEventStatus, .permissionOverwriteTargetType,
    .autoModerationEventType, .autoModerationTriggerType, .onboardingMode,
    .onboardingPromptType, .stickerFormat, .integrationExpireBehavior]

/-- Name of the enumeration as a type. -/
def typeName : EnumKind → String
  | .channelType => "ChannelType"
  | .sortOrder => "SortOrder"
  | .forumLayout => "ForumLayout"
  | .videoQualityMode => "VideoQualityMode"
  | .verificationLevel => "VerificationLevel"
  | .contentFilterLevel => "ContentFilterLevel"
  | .messageNotificationLevel => "MessageNotificationLevel"
  | .mfaLevel => "MfaLevel"
  | .nsfwLevel => "NsfwLevel"
  | .privacyLevel => "PrivacyLevel"
  | .scheduledEventEntityType => "ScheduledEventEntityType"
  | .scheduledEventStatus => "ScheduledEventStatus"
  | .permissionOverwriteTargetType => "PermissionOverwriteTargetType"
  | .autoModerationEventType => "AutoModerationEventType"
  | .autoModerationTriggerType => "AutoModerationTriggerType"
  | .onboardingMode => "OnboardingMode"
  | .onboardingPromptType => "OnboardingPromptType"
  | .stickerFormat => "StickerFormat"
  | .integrationExpireBehavior => "IntegrationExpireBehavior"

/-- Name of the enumeration in plain words. -/
def label : EnumKind → String
  | .channelType => "channel type"
  | .sortOrder => "sort order"
  | .forumLayout => "forum layout"
  | .videoQualityMode => "video quality mode"
  | .verificationLevel => "verification level"
  | .contentFilterLevel => "content filter level"
  | .messageNotificationLevel => "message notification level"
  | .mfaLevel => "mfa level"
  | .nsfwLevel => "nsfw level"
  | .privacyLevel => "privacy level"
  | .scheduledEventEntityType => "scheduled event entity type"
  | .scheduledEventStatus => "scheduled event status"
  | .permissionOverwriteTargetType => "permission overwrite target type"
  | .autoModerationEventType => "auto moderation event type"
  | .autoModerationTriggerType => "auto moderation trigger type"
  | .onboardingMode => "onboarding mode"
  | .onboardingPromptType => "onboarding prompt type"
  | .stickerFormat => "sticker format"
  | .integrationExpireBehavior => "integration expire behavior"

/-- The listed values. -/
def variants : EnumKind → List Variant
  | .channelType =>
      [⟨"GuildText", 0, "guild text"⟩, ⟨"Private", 1, "private"⟩,
        ⟨"GuildVoice", 2, "guild voice"⟩, ⟨"Group", 3, "group"⟩,
        ⟨"GuildCategory", 4, "guild category"⟩,
        ⟨"GuildAnnouncement", 5, "guild announcement"⟩,
        ⟨"AnnouncementThread", 10, "announcement thread"⟩,
        ⟨"PublicThread", 11, "public thread"⟩, ⟨"PrivateThread", 12, "private thread"⟩,
        ⟨"GuildStageVoice", 13, "guild stage voice"⟩,
        ⟨"GuildDirectory", 14, "guild directory"⟩, ⟨"GuildForum", 15, "guild forum"⟩,
        ⟨"GuildMedia", 16, "guild media"⟩]
  | .sortOrder =>
      [⟨"LatestActivity", 0, "latest activity"⟩, ⟨"CreationDate", 1, "creation date"⟩]
  | .forumLayout =>
      [⟨"NotSet", 0, "not set"⟩, ⟨"List", 1, "list"⟩, ⟨"Gallery", 2, "gallery"⟩]
  | .videoQualityMode => [⟨"Auto", 1, "auto"⟩, ⟨"Full", 2, "full"⟩]
  | .verificationLevel =>
      [⟨"None", 0, "none"⟩, ⟨"Low", 1, "low"⟩, ⟨"Medium", 2, "medium"⟩, ⟨"High", 3, "high"⟩,
        ⟨"VeryHigh", 4, "very high"⟩]
  | .contentFilterLevel =>
      [⟨"Disabled", 0, "disabled"⟩, ⟨"MembersWithoutRoles", 1, "members without roles"⟩,
        ⟨"AllMembers", 2, "all members"⟩]
  | .messageNotificationLevel =>
      [⟨"AllMessages", 0, "all messages"⟩, ⟨"OnlyMentions", 1, "only mentions"⟩]
  | .mfaLevel => [⟨"None", 0, "none"⟩, ⟨"Elevated", 1, "elevated"⟩]
  | .nsfwLevel =>
      [⟨"Default", 0, "default"⟩, ⟨"Explicit", 1, "explicit"⟩, ⟨"Safe", 2, "safe"⟩,
        ⟨"AgeRestricted", 3, "age restricted"⟩]
  | .privacyLevel => [⟨"Public", 1, "public"⟩, ⟨"GuildOnly", 2, "guild only"⟩]
  | .scheduledEventEntityType =>
      [⟨"None", 0, "none"⟩, ⟨"StageInstance", 1, "stage instance"⟩, ⟨"Voice", 2, "voice"⟩,
        ⟨"External", 3, "external"⟩]
  | .scheduledEventStatus =>
      [⟨"None", 0, "none"⟩, ⟨"Scheduled", 1, "scheduled"⟩, ⟨"Active", 2, "active"⟩,
        ⟨"Completed", 3, "completed"⟩, ⟨"Cancelled", 4, "cancelled"⟩]
  | .permissionOverwriteTargetType => [⟨"Role", 0, "role"⟩, ⟨"User", 1, "user"⟩]
  | .autoModerationEventType =>
      [⟨"None", 0, "none"⟩, ⟨"MessageSend", 1, "message send"⟩,
        ⟨"MemberUpdate", 2, "member update"⟩]
  | .autoModerationTriggerType =>
      [⟨"None", 0, "none"⟩, ⟨"Keyword", 1, "keyword"⟩, ⟨"Spam", 3, "spam"⟩,
        ⟨"KeywordPreset", 4, "keyword preset"⟩, ⟨"MentionSpam", 5, "mention spam"⟩,
        ⟨"MemberProfile", 6, "member profile"⟩]
  | .onboardingMode => [⟨"Default", 0, "default"⟩, ⟨"Advanced", 1, "advanced"⟩]
  | .onboardingPromptType =>
      [⟨"MultipleChoice", 0, "multiple choice"⟩, ⟨"Dropdown", 1, "dropdown"⟩]
  | .stickerFormat =>
      [⟨"None", 0, "none"⟩, ⟨"Png", 1, "png"⟩, ⟨"Apng", 2, "apng"⟩, ⟨"Lottie", 3, "lottie"⟩,
        ⟨"Gif", 4, "gif"⟩]
  | .integrationExpireBehavior => [⟨"RemoveRole", 0, "remove role"⟩, ⟨"Kick", 1, "kick"⟩]

/-- Place of the value that an absent attribute has. -/
def defaultIndex : (kind : EnumKind) → Fin kind.variants.length
  | .privacyLevel => ⟨1, by decide⟩
  | .channelType | .sortOrder | .forumLayout | .videoQualityMode | .verificationLevel
  | .contentFilterLevel | .messageNotificationLevel | .mfaLevel | .nsfwLevel
  | .scheduledEventEntityType | .scheduledEventStatus | .permissionOverwriteTargetType
  | .autoModerationEventType | .autoModerationTriggerType | .onboardingMode
  | .onboardingPromptType | .stickerFormat | .integrationExpireBehavior => ⟨0, by decide⟩

end EnumKind

/-- A value of an enumeration: one of its list, or a bare code. -/
inductive EnumValue (kind : EnumKind) where
  | known (index : Fin kind.variants.length)
  | unknown (code : UInt8)
  deriving DecidableEq

namespace EnumValue

variable {kind : EnumKind}

/-- The value that an absent attribute has. -/
def default : EnumValue kind :=
  .known kind.defaultIndex

/-- The value of a code.  A listed code gives the listed value. -/
def ofCode (code : UInt8) : EnumValue kind :=
  match kind.variants.findFinIdx? fun variant => variant.code = code with
  | some index => .known index
  | none => .unknown code

def code : EnumValue kind → UInt8
  | .known index => kind.variants[index].code
  | .unknown code => code

/-- Name of the value in plain words. -/
def label : EnumValue kind → String
  | .known index => kind.variants[index].label
  | .unknown _ => "unknown"

/-- Whether the value is named in the list. -/
def isKnown (value : EnumValue kind) : Bool :=
  value.label ≠ "unknown"

/-- Name of the value in diagnostics. -/
def name : EnumValue kind → String
  | .known index => kind.variants[index].name
  | .unknown code => "Unknown(" ++ Text.decimal code.toNat ++ ")"

/-- Whether the value is a kind of thread. -/
def isThread : EnumValue .channelType → Bool
  | .known index =>
      ["AnnouncementThread", "PublicThread", "PrivateThread"].contains
        EnumKind.channelType.variants[index].name
  | .unknown _ => false

def ofJson (json : Json) : Except Mismatch (EnumValue kind) :=
  (json.boundedNat 255 "u8").map fun n => ofCode (UInt8.ofNat n)

/-- A number serialized without a codec takes 64 bits. -/
def toJson (value : EnumValue kind) : Json :=
  .ofUInt64 value.code.toUInt64

end EnumValue

end AuditFields
