import Scaffold.Archive
import Scaffold.Archive.Rebuild
import Scaffold.Archive.Run
import Scaffold.Bytes
import Scaffold.Calendar.Date
import Scaffold.Check
import Scaffold.Checksum
import Scaffold.CommandLine
import Scaffold.CommandLine.Arguments
import Scaffold.CommandLine.Display
import Scaffold.CommandLine.EnvironmentFile
import Scaffold.CommandLine.Fault
import Scaffold.CommandLine.Settings
import Scaffold.Condition
import Scaffold.Content
import Scaffold.Creation
import Scaffold.Database
import Scaffold.Database.File
import Scaffold.Database.FileReader
import Scaffold.Decimal.Reader
import Scaffold.Decimal.Shortest
import Scaffold.Deflate
import Scaffold.Dictionary
import Scaffold.Diff
import Scaffold.Diff.Edit
import Scaffold.Diff.Search
import Scaffold.Diff.Tidy
import Scaffold.Document.Format
import Scaffold.Document.Limits
import Scaffold.Document.Results
import Scaffold.Document.Schema
import Scaffold.Document.Variables
import Scaffold.Error
import Scaffold.Generator
import Scaffold.Host
import Scaffold.Host.Disk
import Scaffold.Host.Faults
import Scaffold.Host.Memory
import Scaffold.Image
import Scaffold.Image.Jpeg
import Scaffold.Image.Png
import Scaffold.Json.Cursor
import Scaffold.Json.Number
import Scaffold.Json.Printer
import Scaffold.Json.Quoted
import Scaffold.Json.Reader
import Scaffold.Json.Typed
import Scaffold.Json.Value
import Scaffold.Limits
import Scaffold.Main
import Scaffold.Markup.Element
import Scaffold.Name
import Scaffold.Path
import Scaffold.Pattern
import Scaffold.Pattern.CharSet
import Scaffold.Pattern.Matcher
import Scaffold.Pattern.Property
import Scaffold.Pattern.Property.Binary
import Scaffold.Pattern.Property.Category
import Scaffold.Pattern.Property.Script
import Scaffold.Pattern.Reader
import Scaffold.Pattern.Screen
import Scaffold.Pattern.Syntax
import Scaffold.Preview
import Scaffold.Project
import Scaffold.Proofs.Account
import Scaffold.Proofs.Agreement
import Scaffold.Proofs.Archiving
import Scaffold.Proofs.Attributes
import Scaffold.Proofs.Balance
import Scaffold.Proofs.Blindness
import Scaffold.Proofs.Calls
import Scaffold.Proofs.Capitals
import Scaffold.Proofs.Census
import Scaffold.Proofs.Chains
import Scaffold.Proofs.Collisions
import Scaffold.Proofs.Colors
import Scaffold.Proofs.Columns
import Scaffold.Proofs.Commuting
import Scaffold.Proofs.Complaints
import Scaffold.Proofs.Completion
import Scaffold.Proofs.Containment
import Scaffold.Proofs.Creating
import Scaffold.Proofs.Cut
import Scaffold.Proofs.Delivery
import Scaffold.Proofs.DepthCheck
import Scaffold.Proofs.DepthLimit
import Scaffold.Proofs.Dictionary
import Scaffold.Proofs.Directives
import Scaffold.Proofs.Disk
import Scaffold.Proofs.DryRun
import Scaffold.Proofs.Encounters
import Scaffold.Proofs.Fetching
import Scaffold.Proofs.Fidelity
import Scaffold.Proofs.Forecast
import Scaffold.Proofs.FreeVariables
import Scaffold.Proofs.Hazards
import Scaffold.Proofs.Hierarchy
import Scaffold.Proofs.Inflation
import Scaffold.Proofs.Inspection
import Scaffold.Proofs.Isolation
import Scaffold.Proofs.Links
import Scaffold.Proofs.Linting
import Scaffold.Proofs.LiteralAddress
import Scaffold.Proofs.LoopItems
import Scaffold.Proofs.Memory
import Scaffold.Proofs.Pairing
import Scaffold.Proofs.Parallel
import Scaffold.Proofs.Patches
import Scaffold.Proofs.Path
import Scaffold.Proofs.Perform
import Scaffold.Proofs.Plan
import Scaffold.Proofs.Precedence
import Scaffold.Proofs.Previewing
import Scaffold.Proofs.ProjectName
import Scaffold.Proofs.Pruning
import Scaffold.Proofs.Readers
import Scaffold.Proofs.Rebuilding
import Scaffold.Proofs.Recording
import Scaffold.Proofs.References
import Scaffold.Proofs.Rehearsal
import Scaffold.Proofs.RepeatCounts
import Scaffold.Proofs.Repetition
import Scaffold.Proofs.Run
import Scaffold.Proofs.SameText
import Scaffold.Proofs.Settling
import Scaffold.Proofs.Sites
import Scaffold.Proofs.Sources
import Scaffold.Proofs.SpelledAddress
import Scaffold.Proofs.SplitTokens
import Scaffold.Proofs.Supply
import Scaffold.Proofs.TemplateVariables
import Scaffold.Proofs.TextRuns
import Scaffold.Proofs.Texts
import Scaffold.Proofs.Tokens
import Scaffold.Proofs.Trace
import Scaffold.Proofs.Undo
import Scaffold.Proofs.Unhindered
import Scaffold.Proofs.Visits
import Scaffold.Proofs.Words
import Scaffold.Proofs.WrittenPatterns
import Scaffold.Proofs.WrittenRecords
import Scaffold.Proofs.WrittenSchemas
import Scaffold.Proofs.WrittenValues
import Scaffold.Record
import Scaffold.Report
import Scaffold.Rule
import Scaffold.Schema
import Scaffold.Shell
import Scaffold.Shell.Arithmetic
import Scaffold.Shell.Command
import Scaffold.Shell.Condition
import Scaffold.Shell.Echo
import Scaffold.Shell.Expansion
import Scaffold.Shell.Files
import Scaffold.Shell.Filters
import Scaffold.Shell.LinePattern
import Scaffold.Shell.Programs
import Scaffold.Shell.Session
import Scaffold.Shell.Token
import Scaffold.Shell.Wildcard
import Scaffold.Shell.Word
import Scaffold.Substitution
import Scaffold.Template
import Scaffold.Text.Blank
import Scaffold.Text.Case
import Scaffold.Text.Case.Fold
import Scaffold.Text.Case.Table
import Scaffold.Text.Decimal
import Scaffold.Text.Letter
import Scaffold.Text.Letter.Table
import Scaffold.Text.Literal
import Scaffold.Text.Normal
import Scaffold.Text.Normal.Table
import Scaffold.Text.Ranges
import Scaffold.Text.Scan
import Scaffold.Text.Split
import Scaffold.Text.Utf8
import Scaffold.Text.WordStyle
import Scaffold.Token
import Scaffold.Toml.Printer
import Scaffold.Toml.Reader
import Scaffold.Toml.Scalar
import Scaffold.Toml.Table
import Scaffold.Transform
import Scaffold.Undo
import Scaffold.Url
import Scaffold.Url.Address
import Scaffold.Url.Domain
import Scaffold.Url.Domain.Direction
import Scaffold.Url.Domain.Punycode
import Scaffold.Url.Domain.Table
import Scaffold.Url.Escape
import Scaffold.Url.Guard
import Scaffold.Variable.Name
import Scaffold.Variable.Scope
import Scaffold.Walk
import Scaffold.Zip
import Scaffold.Zip.Reader
