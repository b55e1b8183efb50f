/-
The directory of all attributes, by kind of object.
-/
import AuditFields.Entity.Community
import AuditFields.Entity.Conversation
import AuditFields.Entity.Expression
import AuditFields.Entity.Gathering
import AuditFields.Entity.Integration
import AuditFields.Entity.Moderation

namespace AuditFields.Entity

/-- The kinds of objects and their attributes. -/
def directory : List (String × List Field) :=
  [("application", Application.fields), ("application_command", Command.fields),
    ("auto_moderation", AutoModeration.fields), ("channel", Channel.fields),
    ("channel.forum_tag", ForumTag.fields), ("channel.permission_overwrite", Overwrite.fields),
    ("emoji", Emoji.fields), ("guild", Guild.fields), ("guild.discovery", Discovery.fields),
    ("integration", Integration.fields), ("invite", Invite.fields), ("member", Member.fields),
    ("message", Message.fields), ("onboarding", Onboarding.fields),
    ("onboarding.prompt", Prompt.fields), ("onboarding.prompt_option", PromptOption.fields),
    ("role", Role.fields), ("scheduled_event", ScheduledEvent.fields),
    ("stage_instance", StageInstance.fields), ("sticker", Sticker.fields),
    ("webhook", Webhook.fields)]

/-- The attribute at a path: the kind of object, a dot, and the name. -/
def field? (path : String) : Option Field :=
  directory.findSome? fun (kind, fields) =>
    fields.find? fun field => kind ++ "." ++ field.name = path

end AuditFields.Entity
