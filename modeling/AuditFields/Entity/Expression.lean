/-
Attributes of custom emojis and stickers.
-/
import AuditFields.Field

namespace AuditFields.Entity

namespace Emoji

def id : Field := .named "id" (.id .emoji)

def name : Field := .named "name" (.text "" (.between 2 32) false)

def animated : Field := .named "animated" (.bool false)

/-- Whether the emoji can be used; a guild may lose the right to it. -/
def available : Field := .named "available" (.bool true)

/-- Roles that may use the emoji; unset means everyone. -/
def roleIds : Field := ⟨"role_ids", "roles", .idArray .role none⟩

/-- The attributes of custom emojis. -/
def fields : List Field :=
  [id, name, animated, available, roleIds]

end Emoji

namespace Sticker

def id : Field := .named "id" (.id .sticker)

def guildId : Field := .named "guild_id" (.id .guild)

def name : Field := .named "name" (.text "" (.between 2 30) false)

def description : Field := .named "description" (.optionalText (.between 2 100))

/-- Whether the sticker can be used; a guild may lose the right to it. -/
def available : Field := .named "available" (.bool true)

def format : Field := ⟨"format", "format_type", .enum .stickerFormat false⟩

/-- Words that suggest the sticker. -/
def tags : Field := .named "tags" (.stringSet (some 200))

/-- The attributes of stickers. -/
def fields : List Field :=
  [id, guildId, name, description, available, format, tags]

end Sticker

end AuditFields.Entity
