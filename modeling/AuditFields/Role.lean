/-
Roles of a guild, and edits of their attributes.  An edit validates its input
first, so a refused one leaves the role as it was.
-/
import AuditFields.Entity.Community

namespace AuditFields

/-- A role. -/
structure Role where
  color : Color
  flags : FlagSet .role
  icon : Option ImageHash
  id : Option (Snowflake .role)
  managed : Bool
  mentionable : Bool
  name : String
  permissions : FlagSet .permissions
  position : Int64
  separated : Bool
  unicodeEmoji : Option String
  deriving DecidableEq

namespace Role

/-- A role of which nothing is set. -/
def blank : Role where
  color := .black
  flags := .empty
  icon := none
  id := none
  managed := false
  mentionable := false
  name := ""
  permissions := .empty
  position := 0
  separated := false
  unicodeEmoji := none

/-- Read a role. -/
def ofWire (data : WireObject) : Role where
  color := Entity.Role.color.parse data
  flags := Entity.Role.flags.parse data
  icon := Entity.Role.icon.parse data
  id := Entity.Role.id.parse data
  managed := Entity.Role.managed.parse data
  mentionable := Entity.Role.mentionable.parse data
  name := Entity.Role.name.parse data
  permissions := Entity.Role.permissions.parse data
  position := Entity.Role.position.parse data
  separated := Entity.Role.separated.parse data
  unicodeEmoji := Entity.Role.unicodeEmoji.parse data

/-- Write a role: all of it with defaults, and without them only what differs. -/
def toWire (role : Role) (withDefaults : Bool) : WireObject :=
  ([] : WireObject)
    |> Entity.Role.color.put role.color withDefaults
    |> Entity.Role.flags.put role.flags withDefaults
    |> Entity.Role.icon.put role.icon withDefaults
    |> Entity.Role.id.put role.id withDefaults
    |> Entity.Role.managed.put role.managed withDefaults
    |> Entity.Role.mentionable.put role.mentionable withDefaults
    |> Entity.Role.name.put role.name withDefaults
    |> Entity.Role.permissions.put role.permissions withDefaults
    |> Entity.Role.position.put role.position withDefaults
    |> Entity.Role.separated.put role.separated withDefaults
    |> Entity.Role.unicodeEmoji.put role.unicodeEmoji withDefaults

/-- The attributes that can be edited. -/
inductive Attribute where
  | color
  | name
  | permissions
  | position
  | separated
  | unicodeEmoji
  deriving DecidableEq

def Attribute.all : List Attribute :=
  [.color, .name, .permissions, .position, .separated, .unicodeEmoji]

/-- The field of an attribute. -/
def Attribute.field : Attribute → Field
  | .color => Entity.Role.color
  | .name => Entity.Role.name
  | .permissions => Entity.Role.permissions
  | .position => Entity.Role.position
  | .separated => Entity.Role.separated
  | .unicodeEmoji => Entity.Role.unicodeEmoji

def Attribute.ofName? (name : String) : Option Attribute :=
  all.find? fun attr => attr.field.name = name

/-- The role with an attribute changed. -/
def withAttribute (role : Role) : (attr : Attribute) → attr.field.codec.Value → Role
  | .color, value => { role with color := value }
  | .name, value => { role with name := value }
  | .permissions, value => { role with permissions := value }
  | .position, value => { role with position := value }
  | .separated, value => { role with separated := value }
  | .unicodeEmoji, value => { role with unicodeEmoji := value }

/-- Edit an attribute. -/
def set (role : Role) (attr : Attribute) (candidate : Candidate) :
    Except ValidationError Role :=
  (attr.field.validate candidate).map (role.withAttribute attr)

end Role

end AuditFields
