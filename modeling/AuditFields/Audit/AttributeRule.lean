/-
The table of audited attributes: which domains the sides of their changes may
have, and what an empty value means.  A change does not carry this itself.
-/
import AuditFields.Change.Value

namespace AuditFields

/-- What the sides of an attribute's changes may hold. -/
structure AttributeRule where
  name : String
  domains : List ValueDomain
  empties : EmptyRule
  deriving DecidableEq

namespace AttributeRule

/-- Every audited attribute, by name. -/
def table : List AttributeRule :=
  [⟨"actions", [.objects], .unset⟩, ⟨"afk_channel_id", [.id], .keep⟩,
    ⟨"afk_timeout", [.integer], .keep⟩, ⟨"allow", [.flags .permissions], .keep⟩,
    ⟨"application_id", [.id], .keep⟩, ⟨"applied_tag_ids", [.ids], .unset⟩,
    ⟨"archived", [.bool], .keep⟩, ⟨"auto_archive_duration", [.integer], .keep⟩,
    ⟨"available", [.bool], .keep⟩, ⟨"available_tags", [.nested .forumTag], .unset⟩,
    ⟨"avatar", [.imageHash], .keep⟩, ⟨"banner", [.imageHash], .keep⟩,
    ⟨"bitrate", [.integer], .keep⟩, ⟨"boost_progress_bar_enabled", [.bool], .keep⟩,
    ⟨"channel_id", [.id], .keep⟩, ⟨"code", [.string], .keep⟩, ⟨"color", [.color], .keep⟩,
    ⟨"content_filter", [.enum .contentFilterLevel], .keep⟩, ⟨"deaf", [.bool], .keep⟩,
    ⟨"default_channel_ids", [.ids], .unset⟩,
    ⟨"default_forum_layout", [.enum .forumLayout], .keep⟩,
    ⟨"default_sort_order", [.enum .sortOrder], .keep⟩,
    ⟨"default_thread_auto_archive_after", [.integer], .keep⟩,
    ⟨"default_thread_reaction", [.object], .unset⟩,
    ⟨"default_thread_slowmode", [.integer], .keep⟩, ⟨"deny", [.flags .permissions], .keep⟩,
    ⟨"description", [.string], .unset⟩, ⟨"discovery_splash", [.imageHash], .keep⟩,
    ⟨"enable_emoticons", [.bool], .keep⟩, ⟨"enabled", [.bool], .keep⟩,
    ⟨"end", [.timestamp], .keep⟩, ⟨"entity_id", [.id], .keep⟩,
    ⟨"entity_metadata", [.object], .unset⟩,
    ⟨"entity_type", [.enum .scheduledEventEntityType], .keep⟩,
    ⟨"event_type", [.enum .autoModerationEventType], .keep⟩,
    ⟨"excluded_channel_ids", [.ids], .unset⟩, ⟨"excluded_keywords", [.strings], .unset⟩,
    ⟨"excluded_role_ids", [.ids], .unset⟩,
    ⟨"expire_behavior", [.enum .integrationExpireBehavior], .keep⟩,
    ⟨"expire_grace_period", [.integer], .keep⟩,
    ⟨"flags", [.flags .channel, .flags .role], .keep⟩, ⟨"format", [.enum .stickerFormat], .keep⟩,
    ⟨"guild_id", [.id], .keep⟩, ⟨"icon", [.imageHash], .keep⟩, ⟨"id", [.id], .keep⟩,
    ⟨"image", [.imageHash], .keep⟩, ⟨"in_onboarding", [.bool], .keep⟩,
    ⟨"invitable", [.bool], .keep⟩, ⟨"invite_splash", [.imageHash], .keep⟩,
    ⟨"inviter_id", [.id], .keep⟩, ⟨"keywords", [.strings], .unset⟩, ⟨"locked", [.bool], .keep⟩,
    ⟨"max_age", [.integer], .keep⟩, ⟨"max_uses", [.integer], .keep⟩,
    ⟨"mentionable", [.bool], .keep⟩,
    ⟨"message_notification", [.enum .messageNotificationLevel], .keep⟩,
    ⟨"mfa", [.enum .mfaLevel], .keep⟩, ⟨"mode", [.enum .onboardingMode], .keep⟩,
    ⟨"mute", [.bool], .keep⟩, ⟨"name", [.string], .keep⟩, ⟨"nick", [.string], .unset⟩,
    ⟨"nsfw", [.bool], .keep⟩, ⟨"nsfw_level", [.enum .nsfwLevel], .keep⟩,
    ⟨"options", [.objects], .unset⟩, ⟨"owner_id", [.id], .keep⟩, ⟨"parent_id", [.id], .keep⟩,
    ⟨"pending", [.bool], .keep⟩,
    ⟨"permission_overwrites", [.nested .permissionOverwrite], .unset⟩,
    ⟨"permissions", [.flags .permissions], .keep⟩, ⟨"position", [.integer], .keep⟩,
    ⟨"privacy_level", [.enum .privacyLevel], .keep⟩, ⟨"prompts", [.objects], .unset⟩,
    ⟨"public_updates_channel_id", [.id], .keep⟩, ⟨"regex_patterns", [.strings], .unset⟩,
    ⟨"region", [.string], .unset⟩, ⟨"required", [.bool], .keep⟩, ⟨"role_ids", [.ids], .unset⟩,
    ⟨"roles", [.nested .role], .unset⟩, ⟨"rules_channel_id", [.id], .keep⟩,
    ⟨"safety_alerts_channel_id", [.id], .keep⟩, ⟨"separated", [.bool], .keep⟩,
    ⟨"single_select", [.bool], .keep⟩, ⟨"slowmode", [.integer], .keep⟩,
    ⟨"start", [.timestamp], .keep⟩, ⟨"status", [.enum .scheduledEventStatus], .keep⟩,
    ⟨"system_channel_flags", [.flags .systemChannel], .keep⟩,
    ⟨"system_channel_id", [.id], .keep⟩, ⟨"tags", [.stringSet], .unset⟩,
    ⟨"target_id", [.id], .keep⟩, ⟨"target_type", [.enum .permissionOverwriteTargetType], .keep⟩,
    ⟨"temporary", [.bool], .keep⟩, ⟨"timed_out_until", [.timestamp], .keep⟩,
    ⟨"topic", [.string], .unset⟩, ⟨"trigger_metadata", [.object], .unset⟩,
    ⟨"trigger_type", [.enum .autoModerationTriggerType], .keep⟩,
    ⟨"type", [.enum .channelType, .enum .onboardingPromptType], .keep⟩,
    ⟨"unicode_emoji", [.string], .unset⟩, ⟨"user_limit", [.integer], .keep⟩,
    ⟨"uses", [.integer], .keep⟩, ⟨"vanity_code", [.string], .unset⟩,
    ⟨"verification_level", [.enum .verificationLevel], .keep⟩,
    ⟨"video_quality_mode", [.enum .videoQualityMode], .keep⟩,
    ⟨"widget_channel_id", [.id], .keep⟩, ⟨"widget_enabled", [.bool], .keep⟩]

/-- Whether a side may hold a value of the domain. -/
def admits (rule : AttributeRule) (domain : ValueDomain) : Bool :=
  rule.domains.contains domain

/-- The rule of an attribute. -/
def find? (name : String) : Option AttributeRule :=
  table.find? fun rule => rule.name = name

/-- The place of an attribute in the table. -/
def index? (name : String) : Option Nat :=
  table.findIdx? fun rule => rule.name = name

end AttributeRule

end AuditFields
