import SchemaNaming.Act
import SchemaNaming.Candidate
import SchemaNaming.Category
import SchemaNaming.Decimal.Notation
import SchemaNaming.Decimal.Shortest
import SchemaNaming.Identifier
import SchemaNaming.Keyword
import SchemaNaming.Message
import SchemaNaming.Naming
import SchemaNaming.NormalForm
import SchemaNaming.Occupancy
import SchemaNaming.RawValue
import SchemaNaming.Refusal
import SchemaNaming.Registry
import SchemaNaming.Rename
import SchemaNaming.SchemaType
import SchemaNaming.Session
import SchemaNaming.Session.State
import SchemaNaming.Settings
import SchemaNaming.Table
import SchemaNaming.Text.Accent
import SchemaNaming.Text.Ascii
import SchemaNaming.Text.Basic
import SchemaNaming.Text.Casing
import SchemaNaming.Text.Invisible
import SchemaNaming.Text.Lowercase
import SchemaNaming.Text.Quoted
import SchemaNaming.Text.Ranges
import SchemaNaming.Text.Unassigned
import SchemaNaming.Proofs.Separator
import SchemaNaming.Proofs.AsciiCase
import SchemaNaming.Proofs.Identifier
import SchemaNaming.Proofs.Accent
import SchemaNaming.Proofs.NormalForm
import SchemaNaming.Proofs.IdentifierCore
import SchemaNaming.Proofs.Idempotence
import SchemaNaming.Proofs.ByteLabel
import SchemaNaming.Proofs.Lowercase
import SchemaNaming.Proofs.Keyword
import SchemaNaming.Proofs.SchemaType
import SchemaNaming.Proofs.Act
import SchemaNaming.Proofs.Naming
import SchemaNaming.Proofs.KeywordLed
import SchemaNaming.Proofs.TypeName
import SchemaNaming.Proofs.Walk
import SchemaNaming.Proofs.ClassName
import SchemaNaming.Proofs.Refusal
import SchemaNaming.Proofs.ClosedForm
import SchemaNaming.Proofs.TypeReference
import SchemaNaming.Proofs.TypeHint
import SchemaNaming.Proofs.RegistryHistory
import SchemaNaming.Proofs.SessionHistory
import SchemaNaming.Proofs.Stability
import SchemaNaming.Proofs.SessionFrame
import SchemaNaming.Proofs.RenameReport
import SchemaNaming.Proofs.LogHistory
import SchemaNaming.Proofs.PrintedLog
import SchemaNaming.Proofs.RegistryMembership
import SchemaNaming.Proofs.WordBreak
import SchemaNaming.Proofs.WalkLength
import SchemaNaming.Proofs.UniqueName
import SchemaNaming.Proofs.RegistryWalk
import SchemaNaming.Proofs.Namespace
import SchemaNaming.Proofs.CaseVariant
import SchemaNaming.Proofs.CaseEquivariance
import SchemaNaming.Proofs.RegistryCase
import SchemaNaming.Proofs.TableLookup
import SchemaNaming.Proofs.TypeStability
