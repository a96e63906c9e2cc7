import RepoConventions.CommandLine.Answer
import RepoConventions.CommandLine.Argument
import RepoConventions.CommandLine.Fault
import RepoConventions.CommandLine.Invocation
import RepoConventions.CommandLine.Options
import RepoConventions.CommandLine.Program
import RepoConventions.CommandLine.Reading
import RepoConventions.Config
import RepoConventions.Decimal.Binary64
import RepoConventions.Decimal.Shortest
import RepoConventions.Files.Access
import RepoConventions.Files.Discovery
import RepoConventions.Files.Error
import RepoConventions.Files.Glob
import RepoConventions.Files.OsText
import RepoConventions.Files.Path
import RepoConventions.Files.Resolution
import RepoConventions.Files.Tree
import RepoConventions.Ignore.Entry
import RepoConventions.Ignore.Pattern
import RepoConventions.Ignore.Rule
import RepoConventions.Ignore.RuleSet
import RepoConventions.Json.Basic
import RepoConventions.Json.Reading
import RepoConventions.Json.Written
import RepoConventions.Main
import RepoConventions.Memo.Basic
import RepoConventions.Memo.Batch
import RepoConventions.Project.Document
import RepoConventions.Project.ElementPath
import RepoConventions.Project.Load
import RepoConventions.Proofs.CommandLine.Check
import RepoConventions.Proofs.CommandLine.IgnoreRules
import RepoConventions.Proofs.CommandLine.Root
import RepoConventions.Proofs.CommandLine.Unchanged
import RepoConventions.Proofs.CommandLine.Workflow
import RepoConventions.Proofs.Decimal.Digits
import RepoConventions.Proofs.Files.Access
import RepoConventions.Proofs.Files.Below
import RepoConventions.Proofs.Files.Discovery
import RepoConventions.Proofs.Files.Glob
import RepoConventions.Proofs.Files.Order
import RepoConventions.Proofs.Files.OsText
import RepoConventions.Proofs.Files.Relisting
import RepoConventions.Proofs.Files.Resolution
import RepoConventions.Proofs.Files.Spelling
import RepoConventions.Proofs.Files.Tree
import RepoConventions.Proofs.Ignore.Code
import RepoConventions.Proofs.Ignore.Directory
import RepoConventions.Proofs.Ignore.Entry
import RepoConventions.Proofs.Ignore.Grouping
import RepoConventions.Proofs.Ignore.Pattern
import RepoConventions.Proofs.Ignore.PlainScalars
import RepoConventions.Proofs.Ignore.RuleSet
import RepoConventions.Proofs.Json.Numbers
import RepoConventions.Proofs.Json.ReadBack
import RepoConventions.Proofs.Memo.Determined
import RepoConventions.Proofs.Memo.Footprint
import RepoConventions.Proofs.Memo.Order
import RepoConventions.Proofs.Memo.Progress
import RepoConventions.Proofs.Memo.Settlement
import RepoConventions.Proofs.Memo.Standing
import RepoConventions.Proofs.Memo.Turns
import RepoConventions.Proofs.Project.AttributeValues
import RepoConventions.Proofs.Project.Selection
import RepoConventions.Proofs.Project.Steps
import RepoConventions.Proofs.Regex.Pieces
import RepoConventions.Proofs.Regex.Reach
import RepoConventions.Proofs.Regex.Row
import RepoConventions.Proofs.Regex.Wildcard
import RepoConventions.Proofs.Rules.Builtin
import RepoConventions.Proofs.Rules.Calls
import RepoConventions.Proofs.Rules.Context
import RepoConventions.Proofs.Rules.Discovery
import RepoConventions.Proofs.Rules.FailedSave
import RepoConventions.Proofs.Rules.Filters
import RepoConventions.Proofs.Rules.Independence
import RepoConventions.Proofs.Rules.Interleaving
import RepoConventions.Proofs.Rules.Narrowing
import RepoConventions.Proofs.Rules.Outcomes
import RepoConventions.Proofs.Rules.Procedures
import RepoConventions.Proofs.Rules.Readings
import RepoConventions.Proofs.Rules.RelativePaths
import RepoConventions.Proofs.Rules.Report
import RepoConventions.Proofs.Rules.SavedReport
import RepoConventions.Proofs.Rules.Selection
import RepoConventions.Proofs.Rules.ShellLines
import RepoConventions.Proofs.Rules.ShellReport
import RepoConventions.Proofs.Rules.ShellSoundness
import RepoConventions.Proofs.Rules.Stages
import RepoConventions.Proofs.Rules.Suppression
import RepoConventions.Proofs.Rules.WarningReport
import RepoConventions.Proofs.Rules.WorkflowFiles
import RepoConventions.Proofs.Text.Folding
import RepoConventions.Proofs.Workflow.Agreement
import RepoConventions.Proofs.Workflow.Alike
import RepoConventions.Proofs.Workflow.Configurations
import RepoConventions.Proofs.Workflow.Decoding
import RepoConventions.Proofs.Workflow.DefaultShells
import RepoConventions.Proofs.Workflow.Entries
import RepoConventions.Proofs.Workflow.EventForms
import RepoConventions.Proofs.Workflow.JobIds
import RepoConventions.Proofs.Workflow.Keys
import RepoConventions.Proofs.Workflow.Language
import RepoConventions.Proofs.Workflow.OnKey
import RepoConventions.Proofs.Workflow.Printed
import RepoConventions.Proofs.Workflow.SourceText
import RepoConventions.Proofs.Xml.Scoping
import RepoConventions.Proofs.Yaml.AsWritten
import RepoConventions.Proofs.Yaml.Canonical
import RepoConventions.Proofs.Yaml.Correspondence
import RepoConventions.Proofs.Yaml.Events
import RepoConventions.Proofs.Yaml.Following
import RepoConventions.Proofs.Yaml.Guided
import RepoConventions.Proofs.Yaml.Lookup
import RepoConventions.Proofs.Yaml.Origin
import RepoConventions.Proofs.Yaml.Results
import RepoConventions.Proofs.Yaml.Stable
import RepoConventions.Proofs.Yaml.Twin
import RepoConventions.Regex.Basic
import RepoConventions.Regex.CharSet
import RepoConventions.Regex.Escape
import RepoConventions.Regex.Exclusion
import RepoConventions.Regex.Flags
import RepoConventions.Regex.Property
import RepoConventions.Regex.Reader
import RepoConventions.Regex.SetReader
import RepoConventions.RuleError
import RepoConventions.Rules.Builtin
import RepoConventions.Rules.Context
import RepoConventions.Rules.Marks
import RepoConventions.Rules.Record
import RepoConventions.Rules.Report
import RepoConventions.Rules.Runner
import RepoConventions.Rules.Selection
import RepoConventions.Rules.Summary
import RepoConventions.Rules.WarningReport
import RepoConventions.Text.Ascii
import RepoConventions.Text.BinaryProperty
import RepoConventions.Text.Blank
import RepoConventions.Text.CaseRuns
import RepoConventions.Text.Category
import RepoConventions.Text.CodePoints
import RepoConventions.Text.Cut
import RepoConventions.Text.Fold
import RepoConventions.Text.Lowercase
import RepoConventions.Text.Map
import RepoConventions.Text.Property
import RepoConventions.Text.Script
import RepoConventions.Workflow.Document
import RepoConventions.Workflow.Fault
import RepoConventions.Workflow.Fields
import RepoConventions.Workflow.Job
import RepoConventions.Workflow.Load
import RepoConventions.Workflow.Trigger
import RepoConventions.Workflow.Written
import RepoConventions.Xml.Characters
import RepoConventions.Xml.Element
import RepoConventions.Xml.Markup
import RepoConventions.Xml.References
import RepoConventions.Xml.Tree
import RepoConventions.Yaml.BlockScalar
import RepoConventions.Yaml.Cursor
import RepoConventions.Yaml.Error
import RepoConventions.Yaml.Event
import RepoConventions.Yaml.Folding
import RepoConventions.Yaml.Grammar
import RepoConventions.Yaml.Guided
import RepoConventions.Yaml.Naming
import RepoConventions.Yaml.Node
import RepoConventions.Yaml.PlainScalar
import RepoConventions.Yaml.QuotedScalar
import RepoConventions.Yaml.Reading
import RepoConventions.Yaml.Resolution
import RepoConventions.Yaml.Token
import RepoConventions.Yaml.Tokens
import RepoConventions.Yaml.Tree
import RepoConventions.Yaml.Value
