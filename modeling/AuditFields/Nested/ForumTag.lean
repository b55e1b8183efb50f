/-
Forum tags: the labels that posts of a forum channel can carry.
-/
import AuditFields.Codec.Scalar

namespace AuditFields

/-- A forum tag, with a custom emoji by identifier or a plain one by name. -/
structure ForumTag where
  emojiId : Option (Snowflake .emoji)
  emojiName : Option String
  id : Option (Snowflake .tag)
  moderated : Bool
  name : String
  deriving DecidableEq

namespace ForumTag

def idField : ScalarField := .named "id" (.id .tag)

def nameField : ScalarField := .named "name" (.text "" (.between 1 20) true)

def moderatedField : ScalarField := .named "moderated" (.bool false)

def emojiIdField : ScalarField := .named "emoji_id" (.id .emoji)

def emojiNameField : ScalarField := .named "emoji_name" (.optionalText .unbounded)

/-- Read a tag. -/
def ofWire (data : WireObject) : ForumTag where
  emojiId := emojiIdField.parse data
  emojiName := emojiNameField.parse data
  id := idField.parse data
  moderated := moderatedField.parse data
  name := nameField.parse data

/-- Write a tag. -/
def toWire (tag : ForumTag) (withDefaults : Bool) : WireObject :=
  ([] : WireObject)
    |> emojiIdField.put tag.emojiId withDefaults
    |> emojiNameField.put tag.emojiName withDefaults
    |> idField.put tag.id withDefaults
    |> moderatedField.put tag.moderated withDefaults
    |> nameField.put tag.name withDefaults

end ForumTag

end AuditFields
