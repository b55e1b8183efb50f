/-
Attributes of applications, their commands and other integrations.
-/
import AuditFields.Field

namespace AuditFields.Entity

namespace Application

def id : Field := .named "id" (.id .application)

def name : Field := .named "name" (.text "" (.between 2 32) false)

def description : Field := .named "description" (.optionalText (.atMost 400))

def icon : Field := .named "icon" .imageHash

/-- Whether anyone may add the bot, or only its owner. -/
def botPublic : Field := .named "bot_public" (.bool false)

/-- Whether the bot joins only after a full code grant. -/
def botRequireCodeGrant : Field := .named "bot_require_code_grant" (.bool false)

def flags : Field := .named "flags" (.flags .application)

/-- The attributes of applications. -/
def fields : List Field :=
  [id, name, description, icon, botPublic, botRequireCodeGrant, flags]

end Application

namespace Command

def id : Field := .named "id" (.id .command)

/-- The application that owns the command. -/
def applicationId : Field := .named "application_id" (.id .application)

/-- The guild that the command or its permission is bound to. -/
def guildId : Field := .named "guild_id" (.id .guild)

/-- The channel that a permission is about. -/
def channelId : Field := .named "channel_id" (.id .channel)

def name : Field := .named "name" (.text "" (.between 1 32) false)

def description : Field := .named "description" (.text "" (.between 2 100) false)

def nsfw : Field := .named "nsfw" (.bool false)

/-- The attributes of application commands. -/
def fields : List Field :=
  [id, applicationId, guildId, channelId, name, description, nsfw]

end Command

namespace Integration

def id : Field := .named "id" (.id .integration)

def name : Field := .named "name" (.text "" .unbounded false)

/-- Whether the emoticons of a streaming service are taken over. -/
def enableEmoticons : Field := .named "enable_emoticons" (.bool false)

def expireBehavior : Field := .named "expire_behavior" (.enum .integrationExpireBehavior false)

/-- Days that a lapsed subscriber is kept. -/
def expireGracePeriod : Field := .named "expire_grace_period" (.int 0 (.between 0 30))

/-- The attributes of integrations. -/
def fields : List Field :=
  [id, name, enableEmoticons, expireBehavior, expireGracePeriod]

end Integration

end AuditFields.Entity
