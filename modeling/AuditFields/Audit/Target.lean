/-
Change targets: the kinds of objects whose changes an audit log reports, and
the declarations of their conversion groups.  Audit logs report some
attributes under keys that differ from the objects' own.
-/
import AuditFields.Audit.Group
import AuditFields.Entity.Directory

namespace AuditFields

/-- A kind of object that changes are reported of. -/
inductive ChangeTarget where
  | applicationCommand
  | autoModerationRule
  | channel
  | emoji
  | guild
  | integration
  | invite
  | member
  | onboarding
  | onboardingPrompt
  | permissionOverwrite
  | role
  | scheduledEvent
  | stageInstance
  | sticker
  | webhook
  deriving DecidableEq

namespace ChangeTarget

def all : List ChangeTarget :=
  [.applicationCommand, .autoModerationRule, .channel, .emoji, .guild, .integration, .invite,
    .member, .onboarding, .onboardingPrompt, .permissionOverwrite, .role, .scheduledEvent,
    .stageInstance, .sticker, .webhook]

/-- Name in plain words. -/
def name : ChangeTarget → String
  | .applicationCommand => "application command"
  | .autoModerationRule => "auto moderation rule"
  | .channel => "channel"
  | .emoji => "emoji"
  | .guild => "guild"
  | .integration => "integration"
  | .invite => "invite"
  | .member => "member"
  | .onboarding => "onboarding"
  | .onboardingPrompt => "onboarding prompt"
  | .permissionOverwrite => "permission overwrite"
  | .role => "role"
  | .scheduledEvent => "scheduled event"
  | .stageInstance => "stage instance"
  | .sticker => "sticker"
  | .webhook => "webhook"

def ofName? (name : String) : Option ChangeTarget :=
  all.find? fun target => target.name = name

/-- The field under the key that audit logs use for it. -/
def reportedAs (field : Field) (key : String) : Field :=
  { field with key }

/-- The channel of an object, one entry for every group that has it. -/
def channelEntry : ConversionEntry :=
  .declareAs "shared" .id Entity.Invite.channelId

/-- The roles that a member gained or lost. -/
def memberRoles : Field :=
  .named "roles" (.nestedArray .role)

/-- Entries of a target's own fields, each under the domain declared for it. -/
def own (target : ChangeTarget) (fields : List (Field × ValueDomain)) : List ConversionEntry :=
  fields.map fun declared => .declareAs target.name declared.2 declared.1

/-- The declared entries of a target, in order. -/
def entries (target : ChangeTarget) : List ConversionEntry :=
  match target with
  | .applicationCommand =>
      open Entity.Command in
      own target [(applicationId, .id), (channelId, .id), (guildId, .id)]
  | .autoModerationRule =>
      open Entity.AutoModeration in
      own target
        [(actions, .objects), (enabled, .bool), (eventType, .enum .autoModerationEventType),
          (excludedChannelIds, .ids), (excludedKeywords, .strings), (excludedRoleIds, .ids),
          (keywords, .strings), (Entity.AutoModeration.name, .string),
          (regexPatterns, .strings), (triggerMetadata, .object),
          (triggerType, .enum .autoModerationTriggerType)]
  | .channel =>
      open Entity.Channel in
      own target
        [(appliedTagIds, .ids), (archived, .bool), (autoArchiveDuration, .integer),
          (availableTags, .nested .forumTag), (bitrate, .integer),
          (defaultForumLayout, .enum .forumLayout), (defaultSortOrder, .enum .sortOrder),
          (defaultThreadAutoArchiveAfter, .integer), (defaultThreadReaction, .object),
          (defaultThreadSlowmode, .integer), (flags, .flags .channel), (invitable, .bool),
          (locked, .bool), (Entity.Channel.name, .string), (nsfw, .bool), (parentId, .id),
          (permissionOverwrites, .nested .permissionOverwrite), (position, .integer),
          (region, .string), (slowmode, .integer), (topic, .string),
          (type, .enum .channelType), (userLimit, .integer),
          (videoQualityMode, .enum .videoQualityMode)]
  | .emoji => own target [(Entity.Emoji.name, .string), (Entity.Emoji.roleIds, .ids)]
  | .guild =>
      open Entity.Guild in
      own target
        [(afkChannelId, .id), (afkTimeout, .integer),
          (reportedAs banner "banner_hash", .imageHash), (boostProgressBarEnabled, .bool),
          (contentFilter, .enum .contentFilterLevel), (description, .string),
          (reportedAs discoverySplash "discovery_splash_hash", .imageHash),
          (reportedAs icon "icon_hash", .imageHash),
          (reportedAs inviteSplash "splash_hash", .imageHash),
          (messageNotification, .enum .messageNotificationLevel), (mfa, .enum .mfaLevel),
          (Entity.Guild.name, .string), (nsfwLevel, .enum .nsfwLevel), (ownerId, .id),
          (publicUpdatesChannelId, .id), (region, .string), (rulesChannelId, .id),
          (safetyAlertsChannelId, .id), (systemChannelFlags, .flags .systemChannel),
          (systemChannelId, .id), (vanityCode, .string),
          (verificationLevel, .enum .verificationLevel), (widgetChannelId, .id),
          (widgetEnabled, .bool)]
  | .integration =>
      open Entity.Integration in
      own target
        [(enableEmoticons, .bool), (expireBehavior, .enum .integrationExpireBehavior),
          (expireGracePeriod, .integer)]
  | .invite =>
      open Entity.Invite in
      channelEntry ::
        own target
          [(code, .string), (inviterId, .id), (maxAge, .integer), (maxUses, .integer),
            (temporary, .bool), (uses, .integer)]
  | .member =>
      open Entity.Member in
      own target
        [(reportedAs avatar "avatar_hash", .imageHash), (deaf, .bool), (mute, .bool),
          (nick, .string), (pending, .bool), (memberRoles, .nested .role),
          (timedOutUntil, .timestamp)]
  | .onboarding =>
      open Entity.Onboarding in
      own target
        [(defaultChannelIds, .ids), (enabled, .bool), (mode, .enum .onboardingMode),
          (prompts, .objects)]
  | .onboardingPrompt =>
      open Entity.Prompt in
      own target
        [(inOnboarding, .bool), (Entity.Prompt.name, .string), (options, .objects),
          (required, .bool), (singleSelect, .bool), (type, .enum .onboardingPromptType)]
  | .permissionOverwrite =>
      open Entity.Overwrite in
      own target
        [(allow, .flags .permissions), (deny, .flags .permissions), (targetId, .id),
          (targetType, .enum .permissionOverwriteTargetType)]
  | .role =>
      open Entity.Role in
      own target
        [(color, .color), (flags, .flags .role), (reportedAs icon "icon_hash", .imageHash),
          (mentionable, .bool), (Entity.Role.name, .string),
          (permissions, .flags .permissions), (position, .integer), (separated, .bool),
          (unicodeEmoji, .string)]
  | .scheduledEvent =>
      open Entity.ScheduledEvent in
      channelEntry ::
        own target
          [(description, .string), (endTime, .timestamp), (entityId, .id),
            (entityMetadata, .object), (entityType, .enum .scheduledEventEntityType),
            (image, .imageHash), (Entity.ScheduledEvent.name, .string),
            (privacyLevel, .enum .privacyLevel), (startTime, .timestamp),
            (status, .enum .scheduledEventStatus)]
  | .stageInstance =>
      open Entity.StageInstance in
      channelEntry :: own target [(privacyLevel, .enum .privacyLevel), (topic, .string)]
  | .sticker =>
      open Entity.Sticker in
      own target
        [(available, .bool), (description, .string), (format, .enum .stickerFormat),
          (guildId, .id), (Entity.Sticker.id, .id), (Entity.Sticker.name, .string),
          (tags, .stringSet)]
  | .webhook =>
      own target
          [(Entity.Webhook.applicationId, .id),
            (reportedAs Entity.Webhook.avatar "avatar_hash", .imageHash)] ++
        channelEntry :: own target [(Entity.Webhook.name, .string)]

/-- The declared aliases of a target. -/
def aliases : ChangeTarget → List Alias
  | .autoModerationRule =>
      [⟨"$add_keyword_filter", "keywords", .added⟩,
        ⟨"$remove_keyword_filter", "keywords", .removed⟩,
        ⟨"$add_regex_patterns", "regex_patterns", .added⟩,
        ⟨"$remove_regex_patterns", "regex_patterns", .removed⟩,
        ⟨"$add_allow_list", "excluded_keywords", .added⟩,
        ⟨"$remove_allow_list", "excluded_keywords", .removed⟩]
  | .member => [⟨"$add", "roles", .added⟩, ⟨"$remove", "roles", .removed⟩]
  | .applicationCommand | .channel | .emoji | .guild | .integration | .invite | .onboarding
  | .onboardingPrompt | .permissionOverwrite | .role | .scheduledEvent | .stageInstance
  | .sticker | .webhook => []

/-- The conversion group of a target. -/
def group? (target : ChangeTarget) : Option ConversionGroup :=
  (ConversionGroup.build target.name target.entries target.aliases).toOption

/-- The entry behind a wire key of a target, aliases included. -/
def resolveKey (target : ChangeTarget) (key : String) : Option Resolved :=
  target.group?.bind fun group => group.resolveKey key

/-- The entry of an attribute of a target. -/
def resolveName (target : ChangeTarget) (name : String) : Option Resolved :=
  target.group?.bind fun group => group.resolveName name

end ChangeTarget

end AuditFields
