import AuditFields.Ascending
import AuditFields.Audit.AttributeRule
import AuditFields.Audit.Change
import AuditFields.Audit.Entry
import AuditFields.Audit.Event
import AuditFields.Audit.Group
import AuditFields.Audit.LogEntry
import AuditFields.Audit.Target
import AuditFields.Candidate
import AuditFields.Change.Domain
import AuditFields.Change.Value
import AuditFields.Codec.Accept
import AuditFields.Codec.Basic
import AuditFields.Codec.Bounds
import AuditFields.Codec.EmptyRule
import AuditFields.Codec.Scalar
import AuditFields.Codec.ScalarAccept
import AuditFields.Entity.Community
import AuditFields.Entity.Conversation
import AuditFields.Entity.Directory
import AuditFields.Entity.Expression
import AuditFields.Entity.Gathering
import AuditFields.Entity.Integration
import AuditFields.Entity.Moderation
import AuditFields.Field
import AuditFields.Json.Basic
import AuditFields.Json.Literal
import AuditFields.Json.Mismatch
import AuditFields.Json.Printer
import AuditFields.Json.Reader
import AuditFields.Nested.ForumTag
import AuditFields.Nested.Kind
import AuditFields.Nested.PartialRole
import AuditFields.Nested.PermissionOverwrite
import AuditFields.Nested.Validate
import AuditFields.Number.Arithmetic
import AuditFields.Number.Double
import AuditFields.Number.Numeral
import AuditFields.Number.Shortest
import AuditFields.Rejection
import AuditFields.Role
import AuditFields.Text.Blank
import AuditFields.Text.Digits
import AuditFields.Text.Printable
import AuditFields.Text.Quoted
import AuditFields.Value.Calendar
import AuditFields.Value.Color
import AuditFields.Value.Enumeration
import AuditFields.Value.FlagSet
import AuditFields.Value.ImageHash
import AuditFields.Value.Snowflake
import AuditFields.Value.TextSet
import AuditFields.Value.Timestamp
import AuditFields.Proofs.AcceptedShapes
import AuditFields.Proofs.AcceptedValues
import AuditFields.Proofs.Assignments
import AuditFields.Proofs.BoundedAcceptance
import AuditFields.Proofs.ChangeReadback
import AuditFields.Proofs.CivilCalendar
import AuditFields.Proofs.CodecReadback
import AuditFields.Proofs.ColorGrammar
import AuditFields.Proofs.CommaItems
import AuditFields.Proofs.DeclaredBounds
import AuditFields.Proofs.EntryReadback
import AuditFields.Proofs.FieldWriting
import AuditFields.Proofs.GroupAnswers
import AuditFields.Proofs.GroupDeclarations
import AuditFields.Proofs.GroupIndexes
import AuditFields.Proofs.HeldValues
import AuditFields.Proofs.HexDigits
import AuditFields.Proofs.IdentifierSets
import AuditFields.Proofs.ImageHashGrammar
import AuditFields.Proofs.ItemKinds
import AuditFields.Proofs.JsonCandidates
import AuditFields.Proofs.KeyOrder
import AuditFields.Proofs.MalformedValues
import AuditFields.Proofs.NestedValidation
import AuditFields.Proofs.NestedValues
import AuditFields.Proofs.NormalValues
import AuditFields.Proofs.NumeralRanges
import AuditFields.Proofs.NumeralReadback
import AuditFields.Proofs.PrebuiltLists
import AuditFields.Proofs.RoleEdits
import AuditFields.Proofs.SharedWriter
import AuditFields.Proofs.SnowflakeReaders
import AuditFields.Proofs.StableValidation
import AuditFields.Proofs.TableConformance
import AuditFields.Proofs.TargetGroups
import AuditFields.Proofs.TextSetReadback
import AuditFields.Proofs.TimestampFields
import AuditFields.Proofs.TimestampRange
import AuditFields.Proofs.TimestampText
import AuditFields.Proofs.TypedReaders
import AuditFields.Proofs.UnresolvedChanges
import AuditFields.Proofs.ValidatedChanges
import AuditFields.Proofs.WireForms
import AuditFields.Proofs.WrittenForms
