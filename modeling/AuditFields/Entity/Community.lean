/-
Attributes of guilds and their members, roles and onboarding.
-/
import AuditFields.Field

namespace AuditFields.Entity

namespace Guild

def id : Field := .named "id" (.id .guild)

def name : Field := .named "name" (.text "" (.between 2 100) false)

def description : Field := .named "description" (.optionalText (.atMost 120))

def ownerId : Field := .named "owner_id" (.id .user)

def icon : Field := .named "icon" .imageHash

def banner : Field := .named "banner" .imageHash

def discoverySplash : Field := .named "discovery_splash" .imageHash

/-- Picture behind an invite. -/
def inviteSplash : Field := ⟨"invite_splash", "splash", .imageHash⟩

def afkChannelId : Field := .named "afk_channel_id" (.id .channel)

/-- Idle seconds after which a member is moved away from voice. -/
def afkTimeout : Field := .named "afk_timeout" (.int 3600 (.between 60 3600))

def publicUpdatesChannelId : Field := .named "public_updates_channel_id" (.id .channel)

def rulesChannelId : Field := .named "rules_channel_id" (.id .channel)

def safetyAlertsChannelId : Field := .named "safety_alerts_channel_id" (.id .channel)

def systemChannelId : Field := .named "system_channel_id" (.id .channel)

def systemChannelFlags : Field := .named "system_channel_flags" (.flags .systemChannel)

def widgetChannelId : Field := .named "widget_channel_id" (.id .channel)

def widgetEnabled : Field := .named "widget_enabled" (.bool false)

/-- Whether the bar of boosts is shown. -/
def boostProgressBarEnabled : Field :=
  ⟨"boost_progress_bar_enabled", "premium_progress_bar_enabled", .bool false⟩

def contentFilter : Field :=
  ⟨"content_filter", "explicit_content_filter", .enum .contentFilterLevel false⟩

def messageNotification : Field :=
  ⟨"message_notification", "default_message_notifications", .enum .messageNotificationLevel false⟩

def mfa : Field := ⟨"mfa", "mfa_level", .enum .mfaLevel false⟩

def nsfwLevel : Field := .named "nsfw_level" (.enum .nsfwLevel false)

def verificationLevel : Field := .named "verification_level" (.enum .verificationLevel false)

/-- Voice region of the guild, no longer in use. -/
def region : Field := .named "region" (.optionalText .unbounded)

def vanityCode : Field := ⟨"vanity_code", "vanity_url_code", .optionalText .unbounded⟩

/-- The attributes of guilds. -/
def fields : List Field :=
  [id, name, description, ownerId, icon, banner, discoverySplash, inviteSplash, afkChannelId,
    afkTimeout, publicUpdatesChannelId, rulesChannelId, safetyAlertsChannelId,
    systemChannelId, systemChannelFlags, widgetChannelId, widgetEnabled,
    boostProgressBarEnabled, contentFilter, messageNotification, mfa, nsfwLevel,
    verificationLevel, region, vanityCode]

end Guild

namespace Discovery

def guildId : Field := .named "guild_id" (.id .guild)

/-- Search words that lead to the guild. -/
def keywords : Field := .named "keywords" (.stringArray .unset (some 30) (some 10))

def primaryCategoryId : Field := .named "primary_category_id" (.int 0 (.atLeast 0))

/-- Whether the emojis of the guild are shown with it. -/
def emojiDiscoverabilityEnabled : Field := .named "emoji_discoverability_enabled" (.bool true)

/-- The attributes of the listing of a guild for visitors. -/
def fields : List Field :=
  [guildId, keywords, primaryCategoryId, emojiDiscoverabilityEnabled]

end Discovery

namespace Member

def userId : Field := .named "user_id" (.id .user)

def guildId : Field := .named "guild_id" (.id .guild)

def nick : Field := .named "nick" (.optionalText (.between 1 32))

/-- Picture of the member in this guild. -/
def avatar : Field := .named "avatar" .imageHash

def deaf : Field := .named "deaf" (.bool false)

def mute : Field := .named "mute" (.bool false)

/-- Whether the member has yet to accept the rules. -/
def pending : Field := .named "pending" (.bool false)

def joinedAt : Field := .named "joined_at" .timestamp

/-- End of the time in which the member may not write. -/
def timedOutUntil : Field := ⟨"timed_out_until", "communication_disabled_until", .timestamp⟩

def roleIds : Field := ⟨"role_ids", "roles", .idArray .role none⟩

/-- The attributes of members. -/
def fields : List Field :=
  [userId, guildId, nick, avatar, deaf, mute, pending, joinedAt, timedOutUntil, roleIds]

end Member

namespace Role

def id : Field := PartialRole.idField.toField

def name : Field := .named "name" (.text "" (.between 1 100) false)

def color : Field := .named "color" .color

/-- Whether the members of the role are listed apart. -/
def separated : Field := ⟨"separated", "hoist", .bool false⟩

def icon : Field := .named "icon" .imageHash

def unicodeEmoji : Field := .named "unicode_emoji" (.optionalText .unbounded)

/-- Whether an integration looks after the role. -/
def managed : Field := .named "managed" (.bool false)

def mentionable : Field := .named "mentionable" (.bool false)

def permissions : Field := .named "permissions" (.flags .permissions)

def position : Field := .named "position" (.int 0 (.atLeast 0))

def flags : Field := .named "flags" (.flags .role)

/-- The attributes of roles. -/
def fields : List Field :=
  [id, name, color, separated, icon, unicodeEmoji, managed, mentionable, permissions,
    position, flags]

end Role

namespace Onboarding

def guildId : Field := .named "guild_id" (.id .guild)

/-- Channels that every new member sees. -/
def defaultChannelIds : Field := .named "default_channel_ids" (.idArray .channel none)

def enabled : Field := .named "enabled" (.bool false)

def mode : Field := .named "mode" (.enum .onboardingMode false)

def prompts : Field := .named "prompts" (.objectArray none)

/-- The attributes of onboarding. -/
def fields : List Field :=
  [guildId, defaultChannelIds, enabled, mode, prompts]

end Onboarding

namespace Prompt

def id : Field := .named "id" (.id .onboardingPrompt)

/-- The question. -/
def name : Field := ⟨"name", "title", .text "" (.atMost 100) true⟩

/-- Whether the question is asked when a member joins. -/
def inOnboarding : Field := .named "in_onboarding" (.bool true)

def required : Field := .named "required" (.bool false)

def singleSelect : Field := .named "single_select" (.bool false)

def type : Field := .named "type" (.enum .onboardingPromptType false)

def options : Field := .named "options" (.objectArray (some 50))

/-- The attributes of onboarding questions. -/
def fields : List Field :=
  [id, name, inOnboarding, required, singleSelect, type, options]

end Prompt

namespace PromptOption

def id : Field := .named "id" (.id .onboardingPromptOption)

/-- The answer, which is written even when it is empty. -/
def name : Field := ⟨"name", "title", .text "" (.atMost 50) true⟩

def description : Field := .named "description" (.optionalText (.atMost 100))

/-- Channels that the answer opens. -/
def channelIds : Field := .named "channel_ids" (.idArray .channel none)

/-- Roles that the answer gives. -/
def roleIds : Field := .named "role_ids" (.idArray .role none)

/-- The attributes of answers to onboarding questions. -/
def fields : List Field :=
  [id, name, description, channelIds, roleIds]

end PromptOption

end AuditFields.Entity
