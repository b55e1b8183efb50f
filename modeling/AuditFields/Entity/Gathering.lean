/-
Attributes of scheduled events and stage instances.
-/
import AuditFields.Field

namespace AuditFields.Entity

namespace ScheduledEvent

def id : Field := .named "id" (.id .scheduledEvent)

def guildId : Field := .named "guild_id" (.id .guild)

def channelId : Field := .named "channel_id" (.id .channel)

def name : Field := .named "name" (.text "" (.between 1 100) false)

def description : Field := .named "description" (.optionalText (.atMost 1000))

/-- Cover picture. -/
def image : Field := .named "image" .imageHash

def startTime : Field := ⟨"start", "scheduled_start_time", .timestamp⟩

def endTime : Field := ⟨"end", "scheduled_end_time", .timestamp⟩

def entityId : Field := .named "entity_id" (.id .scheduledEventEntity)

/-- Settings of the place, such as its name. -/
def entityMetadata : Field := .named "entity_metadata" .object

def entityType : Field := .named "entity_type" (.enum .scheduledEventEntityType false)

def privacyLevel : Field := .named "privacy_level" (.enum .privacyLevel true)

def status : Field := .named "status" (.enum .scheduledEventStatus false)

/-- The attributes of scheduled events. -/
def fields : List Field :=
  [id, guildId, channelId, name, description, image, startTime, endTime, entityId,
    entityMetadata, entityType, privacyLevel, status]

end ScheduledEvent

namespace StageInstance

def channelId : Field := .named "channel_id" (.id .channel)

def guildId : Field := .named "guild_id" (.id .guild)

def topic : Field := .named "topic" (.text "" (.between 1 120) false)

def privacyLevel : Field := .named "privacy_level" (.enum .privacyLevel true)

/-- The attributes of stage instances. -/
def fields : List Field :=
  [channelId, guildId, topic, privacyLevel]

end StageInstance

end AuditFields.Entity
