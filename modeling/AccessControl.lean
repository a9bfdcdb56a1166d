import AccessControl.Callable.Basic
import AccessControl.Callable.Builtin
import AccessControl.Callable.Registry
import AccessControl.CommandLine.Arguments
import AccessControl.CommandLine.Run
import AccessControl.Config.Basic
import AccessControl.Config.Document
import AccessControl.Decimal.Arithmetic
import AccessControl.Decimal.Double
import AccessControl.Decimal.Reading
import AccessControl.Decimal.Shortest
import AccessControl.Decision.Basic
import AccessControl.Decision.Inquiry
import AccessControl.Document.Fault
import AccessControl.Document.Files
import AccessControl.Document.Json
import AccessControl.Document.JsonText
import AccessControl.Document.Yaml.Lexeme
import AccessControl.Document.Yaml.Reader
import AccessControl.Document.Yaml.Scalar
import AccessControl.Document.Yaml.Stamp
import AccessControl.Effect.Basic
import AccessControl.Effect.Selector
import AccessControl.Enforcer.Basic
import AccessControl.Enforcer.Decide
import AccessControl.Enforcer.Management
import AccessControl.Enforcer.Membership
import AccessControl.Error
import AccessControl.Error.Argument
import AccessControl.Error.Matcher
import AccessControl.Error.Model
import AccessControl.Error.Rule
import AccessControl.Journal
import AccessControl.Main
import AccessControl.Matcher.Basic
import AccessControl.Matcher.Cache
import AccessControl.Matcher.Evaluation
import AccessControl.Matcher.Parser
import AccessControl.Matcher.Token
import AccessControl.Model.Basic
import AccessControl.Model.Document
import AccessControl.Network.Address
import AccessControl.Network.Block
import AccessControl.Pattern.Basic
import AccessControl.Pattern.Glob
import AccessControl.Pattern.Path
import AccessControl.Proofs.Callable.Builtin
import AccessControl.Proofs.CommandLine.Answer
import AccessControl.Proofs.Config.Document
import AccessControl.Proofs.Config.Environment
import AccessControl.Proofs.Config.Typed
import AccessControl.Proofs.Decimal.Reading
import AccessControl.Proofs.Decimal.Rounding
import AccessControl.Proofs.Decision.Cached
import AccessControl.Proofs.Decision.Containment
import AccessControl.Proofs.Decision.Deciding
import AccessControl.Proofs.Decision.Effects
import AccessControl.Proofs.Decision.Evaluated
import AccessControl.Proofs.Decision.Extended
import AccessControl.Proofs.Decision.Fields
import AccessControl.Proofs.Decision.Matched
import AccessControl.Proofs.Decision.Reordered
import AccessControl.Proofs.Decision.Reported
import AccessControl.Proofs.Decision.Stopping
import AccessControl.Proofs.Decision.Unread
import AccessControl.Proofs.Decision.Unruled
import AccessControl.Proofs.Document.Reported
import AccessControl.Proofs.Enforcer.Change
import AccessControl.Proofs.Enforcer.Classic
import AccessControl.Proofs.Enforcer.DeletedRole
import AccessControl.Proofs.Enforcer.DomainRoles
import AccessControl.Proofs.Enforcer.Edit
import AccessControl.Proofs.Enforcer.Grant
import AccessControl.Proofs.Enforcer.InPlace
import AccessControl.Proofs.Enforcer.Isolation
import AccessControl.Proofs.Enforcer.Links
import AccessControl.Proofs.Enforcer.Load
import AccessControl.Proofs.Enforcer.Matchers
import AccessControl.Proofs.Enforcer.Membership
import AccessControl.Proofs.Enforcer.Operation
import AccessControl.Proofs.Enforcer.OwnPermissions
import AccessControl.Proofs.Enforcer.Permissions
import AccessControl.Proofs.Enforcer.Query
import AccessControl.Proofs.Enforcer.Removal
import AccessControl.Proofs.Enforcer.Reported
import AccessControl.Proofs.Enforcer.Stored
import AccessControl.Proofs.Enforcer.Tenant
import AccessControl.Proofs.Enforcer.Upkeep
import AccessControl.Proofs.Enforcer.Validity
import AccessControl.Proofs.Journal
import AccessControl.Proofs.Matcher.Cache
import AccessControl.Proofs.Matcher.Conjunction
import AccessControl.Proofs.Matcher.Coverage
import AccessControl.Proofs.Matcher.Dependence
import AccessControl.Proofs.Matcher.Evaluation
import AccessControl.Proofs.Matcher.Failure
import AccessControl.Proofs.Matcher.Grammar
import AccessControl.Proofs.Matcher.Length
import AccessControl.Proofs.Matcher.Lexeme
import AccessControl.Proofs.Matcher.Parser
import AccessControl.Proofs.Matcher.Printed
import AccessControl.Proofs.Matcher.Seam
import AccessControl.Proofs.Matcher.Token
import AccessControl.Proofs.Matcher.Whole
import AccessControl.Proofs.Model.Document
import AccessControl.Proofs.Model.Printed
import AccessControl.Proofs.Model.Schema
import AccessControl.Proofs.Network.Address
import AccessControl.Proofs.Network.Block
import AccessControl.Proofs.Network.Prefix
import AccessControl.Proofs.Network.Range
import AccessControl.Proofs.Pattern.Binding
import AccessControl.Proofs.Pattern.Braces
import AccessControl.Proofs.Pattern.Glob
import AccessControl.Proofs.Pattern.Parameter
import AccessControl.Proofs.Pattern.Segments
import AccessControl.Proofs.Pattern.Split
import AccessControl.Proofs.Pattern.Stars
import AccessControl.Proofs.Pattern.Wildcard
import AccessControl.Proofs.Regex.Progress
import AccessControl.Proofs.Regex.Reader
import AccessControl.Proofs.Regex.Search
import AccessControl.Proofs.Role.Closure
import AccessControl.Proofs.Role.Graph
import AccessControl.Proofs.Role.Implicit
import AccessControl.Proofs.Role.Index
import AccessControl.Proofs.Role.Levels
import AccessControl.Proofs.Role.Mirror
import AccessControl.Proofs.Role.Rebuild
import AccessControl.Proofs.Role.Roster
import AccessControl.Proofs.Role.Search
import AccessControl.Proofs.Rule.Batch
import AccessControl.Proofs.Rule.Document
import AccessControl.Proofs.Rule.Index
import AccessControl.Proofs.Rule.Normal
import AccessControl.Proofs.Rule.Replacement
import AccessControl.Proofs.Rule.Rewrite
import AccessControl.Proofs.Rule.Run
import AccessControl.Proofs.Rule.Store
import AccessControl.Proofs.Text.Blanks
import AccessControl.Proofs.Text.Distinct
import AccessControl.Proofs.Text.Split
import AccessControl.Proofs.Value.Keys
import AccessControl.Regex.Alternatives
import AccessControl.Regex.CharTest
import AccessControl.Regex.Escape
import AccessControl.Regex.Group
import AccessControl.Regex.Loop
import AccessControl.Regex.Node
import AccessControl.Regex.Options
import AccessControl.Regex.Progress
import AccessControl.Regex.Reader
import AccessControl.Regex.Repetition
import AccessControl.Regex.Search
import AccessControl.Regex.Sweep
import AccessControl.Regex.Trail
import AccessControl.Report.Basic
import AccessControl.Report.Table
import AccessControl.Role.Closure
import AccessControl.Role.Graph
import AccessControl.Role.Hierarchy
import AccessControl.Role.Manager
import AccessControl.Role.Roster
import AccessControl.Rule.Basic
import AccessControl.Rule.Document
import AccessControl.Rule.Store
import AccessControl.Text.CaseTable
import AccessControl.Text.CharName
import AccessControl.Text.Classes
import AccessControl.Text.ColumnTable
import AccessControl.Text.Columns
import AccessControl.Text.Decoding
import AccessControl.Text.Identifier
import AccessControl.Text.IdentifierTable
import AccessControl.Text.Lower
import AccessControl.Text.NameTable.Alphabets
import AccessControl.Text.NameTable.EastAsian
import AccessControl.Text.NameTable.Further
import AccessControl.Text.NameTable.Historic
import AccessControl.Text.NameTable.Notation
import AccessControl.Text.NameTable.Pictographs
import AccessControl.Text.NameTable.Syllabaries
import AccessControl.Text.NameTable.Symbols
import AccessControl.Text.Order
import AccessControl.Text.PrintTable
import AccessControl.Text.Quoted
import AccessControl.Text.Ranges
import AccessControl.Text.Trim
import AccessControl.Text.WordTable
import AccessControl.Time.Calendar
import AccessControl.Time.Moment
import AccessControl.Value.Basic
import AccessControl.Value.Bound
import AccessControl.Value.Compare
import AccessControl.Value.Parts
import AccessControl.Value.Relation
import AccessControl.Value.Text
