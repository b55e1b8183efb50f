/-
Attributes of channels and threads, and of what leads to them or appears in them.
-/
import AuditFields.Field

namespace AuditFields.Entity

namespace Channel

def id : Field := .named "id" (.id .channel)

def guildId : Field := .named "guild_id" (.id .guild)

def parentId : Field := .named "parent_id" (.id .channel)

def name : Field := .named "name" (.text "" (.between 1 100) false)

def type : Field := .named "type" (.enum .channelType true)

def position : Field := .named "position" (.int 0 (.atLeast 0))

def topic : Field := .named "topic" (.optionalText (.atMost 4096))

def nsfw : Field := .named "nsfw" (.bool false)

def flags : Field := .named "flags" (.flags .channel)

/-- Seconds between two messages of one member. -/
def slowmode : Field := ⟨"slowmode", "rate_limit_per_user", .int 0 (.between 0 21600)⟩

def bitrate : Field := .named "bitrate" (.int 64000 (.between 8000 384000))

def userLimit : Field := .named "user_limit" (.int 0 (.between 0 99))

/-- Voice region; an unset one is chosen by the service. -/
def region : Field := ⟨"region", "rtc_region", .optionalText .unbounded⟩

def videoQualityMode : Field := .named "video_quality_mode" (.enum .videoQualityMode false)

def permissionOverwrites : Field :=
  .named "permission_overwrites" (.nestedArray .permissionOverwrite)

def availableTags : Field := .named "available_tags" (.nestedArray .forumTag)

def appliedTagIds : Field := ⟨"applied_tag_ids", "applied_tags", .idArray .tag (some 5)⟩

def defaultForumLayout : Field := .named "default_forum_layout" (.enum .forumLayout false)

def defaultSortOrder : Field := .named "default_sort_order" (.enum .sortOrder false)

/-- Idle minutes after which new threads are archived. -/
def defaultThreadAutoArchiveAfter : Field :=
  ⟨"default_thread_auto_archive_after", "default_auto_archive_duration",
    .int 1440 (.between 60 10080)⟩

/-- Emoji offered as a reaction on new posts. -/
def defaultThreadReaction : Field :=
  ⟨"default_thread_reaction", "default_reaction_emoji", .object⟩

/-- Seconds between two messages of one member in new threads. -/
def defaultThreadSlowmode : Field :=
  ⟨"default_thread_slowmode", "default_thread_rate_limit_per_user", .int 0 (.between 0 21600)⟩

def archived : Field := .named "archived" (.bool false)

/-- Idle minutes after which the thread is archived. -/
def autoArchiveDuration : Field := .named "auto_archive_duration" (.int 1440 (.between 60 10080))

def locked : Field := .named "locked" (.bool false)

/-- Whether every member of a private thread may add others. -/
def invitable : Field := .named "invitable" (.bool true)

/-- The attributes of channels and threads. -/
def fields : List Field :=
  [id, guildId, parentId, name, type, position, topic, nsfw, flags, slowmode, bitrate,
    userLimit, region, videoQualityMode, permissionOverwrites, availableTags, appliedTagIds,
    defaultForumLayout, defaultSortOrder, defaultThreadAutoArchiveAfter,
    defaultThreadReaction, defaultThreadSlowmode, archived, autoArchiveDuration, locked,
    invitable]

end Channel

namespace ForumTag

def id : Field := AuditFields.ForumTag.idField.toField

def name : Field := AuditFields.ForumTag.nameField.toField

def moderated : Field := AuditFields.ForumTag.moderatedField.toField

def emojiId : Field := AuditFields.ForumTag.emojiIdField.toField

def emojiName : Field := AuditFields.ForumTag.emojiNameField.toField

/-- The attributes of forum tags. -/
def fields : List Field :=
  [id, name, moderated, emojiId, emojiName]

end ForumTag

namespace Overwrite

def allow : Field := AuditFields.PermissionOverwrite.allowField.toField

def deny : Field := AuditFields.PermissionOverwrite.denyField.toField

def targetId : Field := AuditFields.PermissionOverwrite.targetIdField.toField

def targetType : Field := AuditFields.PermissionOverwrite.targetTypeField.toField

/-- The attributes of permission overwrites. -/
def fields : List Field :=
  [allow, deny, targetId, targetType]

end Overwrite

namespace Message

def id : Field := .named "id" (.id .message)

def channelId : Field := .named "channel_id" (.id .channel)

def guildId : Field := .named "guild_id" (.id .guild)

def authorId : Field := .named "author_id" (.id .user)

def content : Field := .named "content" (.text "" (.atMost 2000) false)

def pinned : Field := .named "pinned" (.bool false)

/-- Whether the message is read aloud. -/
def tts : Field := .named "tts" (.bool false)

/-- The attributes of messages. -/
def fields : List Field :=
  [id, channelId, guildId, authorId, content, pinned, tts]

end Message

namespace Invite

def code : Field := .named "code" (.text "" .unbounded false)

def channelId : Field := .named "channel_id" (.id .channel)

def inviterId : Field := .named "inviter_id" (.id .user)

/-- Seconds until the invite expires; zero means never. -/
def maxAge : Field := .named "max_age" (.int 86400 (.between 0 604800))

/-- Number of uses; zero means no limit. -/
def maxUses : Field := .named "max_uses" (.int 0 (.between 0 100))

/-- Whether members without a role leave when they go offline. -/
def temporary : Field := .named "temporary" (.bool false)

def uses : Field := .named "uses" (.int 0 (.atLeast 0))

/-- The attributes of invites. -/
def fields : List Field :=
  [code, channelId, inviterId, maxAge, maxUses, temporary, uses]

end Invite

namespace Webhook

def id : Field := .named "id" (.id .webhook)

def name : Field := .named "name" (.text "" (.between 1 80) false)

def avatar : Field := .named "avatar" .imageHash

def channelId : Field := .named "channel_id" (.id .channel)

def guildId : Field := .named "guild_id" (.id .guild)

/-- The application that made the webhook. -/
def applicationId : Field := .named "application_id" (.id .application)

/-- The attributes of webhooks. -/
def fields : List Field :=
  [id, name, avatar, channelId, guildId, applicationId]

end Webhook

end AuditFields.Entity
