/-
Attributes of auto moderation rules.
-/
import AuditFields.Field

namespace AuditFields.Entity

namespace AutoModeration

def guildId : Field := .named "guild_id" (.id .guild)

def creatorId : Field := .named "creator_id" (.id .user)

def name : Field := .named "name" (.text "" (.between 1 100) false)

def enabled : Field := .named "enabled" (.bool false)

def eventType : Field := .named "event_type" (.enum .autoModerationEventType true)

def triggerType : Field := .named "trigger_type" (.enum .autoModerationTriggerType true)

/-- What the rule does when it triggers. -/
def actions : Field := .named "actions" (.objectArray (some 3))

/-- Settings of the kind of trigger. -/
def triggerMetadata : Field := .named "trigger_metadata" .object

/-- Channels that the rule leaves alone. -/
def excludedChannelIds : Field :=
  ⟨"excluded_channel_ids", "exempt_channels", .idArray .channel (some 50)⟩

/-- Roles whose members the rule leaves alone. -/
def excludedRoleIds : Field := ⟨"excluded_role_ids", "exempt_roles", .idArray .role (some 20)⟩

/-- Words that trigger the rule. -/
def keywords : Field := ⟨"keywords", "keyword_filter", .stringArray .unset (some 60) (some 1000)⟩

/-- Patterns that trigger the rule. -/
def regexPatterns : Field := .named "regex_patterns" (.stringArray .unset (some 260) (some 10))

/-- Words that never trigger the rule. -/
def excludedKeywords : Field :=
  ⟨"excluded_keywords", "allow_list", .stringArray .unset (some 60) (some 1000)⟩

/-- Mentions that one message may hold before the rule triggers. -/
def mentionLimit : Field := ⟨"mention_limit", "mention_total_limit", .int 0 (.between 0 50)⟩

/-- The attributes of auto moderation rules. -/
def fields : List Field :=
  [guildId, creatorId, name, enabled, eventType, triggerType, actions, triggerMetadata,
    excludedChannelIds, excludedRoleIds, keywords, regexPatterns, excludedKeywords,
    mentionLimit]

end AutoModeration

end AuditFields.Entity
