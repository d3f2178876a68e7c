import PageWiring.Audit
import PageWiring.Check.Basic
import PageWiring.Check.BrokenHandlers
import PageWiring.Check.NonFunctionalElements
import PageWiring.Check.OrphanedFunctions
import PageWiring.Check.Patterns
import PageWiring.Check.Registry
import PageWiring.Check.UnusedFunctions
import PageWiring.Command
import PageWiring.Command.Arguments
import PageWiring.Config
import PageWiring.Config.Reading
import PageWiring.Diagnostic
import PageWiring.Discovery
import PageWiring.Elements
import PageWiring.Error
import PageWiring.Files.Disk
import PageWiring.Files.FileSystem
import PageWiring.Findings
import PageWiring.Fix.Apply
import PageWiring.Fix.Basic
import PageWiring.Fix.Edit
import PageWiring.Functions
import PageWiring.Glob
import PageWiring.Handler
import PageWiring.Json
import PageWiring.Main
import PageWiring.Markup.CharacterReference
import PageWiring.Markup.Control
import PageWiring.Markup.Cursor
import PageWiring.Markup.EntityTable
import PageWiring.Markup.Event
import PageWiring.Markup.Locator
import PageWiring.Markup.Machine
import PageWiring.Markup.Page
import PageWiring.Markup.Reading
import PageWiring.Naming
import PageWiring.Path
import PageWiring.Proofs.AddedScript
import PageWiring.Proofs.Analysis
import PageWiring.Proofs.AttributeRemoval
import PageWiring.Proofs.BackupPaths
import PageWiring.Proofs.CalledNames
import PageWiring.Proofs.DerivedFixes
import PageWiring.Proofs.DisabledChecks
import PageWiring.Proofs.DiscoveredScripts
import PageWiring.Proofs.EnclosingFunctions
import PageWiring.Proofs.EntryOrder
import PageWiring.Proofs.Evaluation
import PageWiring.Proofs.FileNames
import PageWiring.Proofs.FileOperations
import PageWiring.Proofs.FileTree
import PageWiring.Proofs.FixCourse
import PageWiring.Proofs.FixReports
import PageWiring.Proofs.FixedFiles
import PageWiring.Proofs.FunctionIndex
import PageWiring.Proofs.HandlerRemoval
import PageWiring.Proofs.HandlerStatements
import PageWiring.Proofs.HandlerUse
import PageWiring.Proofs.IdWords
import PageWiring.Proofs.JoinedScripts
import PageWiring.Proofs.KeywordSearch
import PageWiring.Proofs.LineNumbers
import PageWiring.Proofs.Lines
import PageWiring.Proofs.LocatorSteps
import PageWiring.Proofs.LocatorWalks
import PageWiring.Proofs.Marks
import PageWiring.Proofs.OpenForms
import PageWiring.Proofs.PageRecords
import PageWiring.Proofs.PageValidity
import PageWiring.Proofs.Phases
import PageWiring.Proofs.Pieces
import PageWiring.Proofs.Places
import PageWiring.Proofs.Prefixes
import PageWiring.Proofs.RecordedLines
import PageWiring.Proofs.RemovedStatements
import PageWiring.Proofs.ReportEntries
import PageWiring.Proofs.Rollback
import PageWiring.Proofs.Runs
import PageWiring.Proofs.SafeRemovals
import PageWiring.Proofs.ScopedReading
import PageWiring.Proofs.ScriptOrder
import PageWiring.Proofs.ScriptPlaces
import PageWiring.Proofs.Searches
import PageWiring.Proofs.Spellings
import PageWiring.Proofs.Steps
import PageWiring.Proofs.StrippedWords
import PageWiring.Proofs.StubLines
import PageWiring.Proofs.StubTargets
import PageWiring.Proofs.Subtrees
import PageWiring.Proofs.Trails
import PageWiring.Proofs.TwinDrafts
import PageWiring.Proofs.TwinReadings
import PageWiring.Proofs.UnusedDefinitions
import PageWiring.Proofs.WidgetParts
import PageWiring.Query
import PageWiring.Record
import PageWiring.Report.Entry
import PageWiring.Report.Markdown
import PageWiring.Report.Structured
import PageWiring.Report.Style
import PageWiring.Report.Terminal
import PageWiring.Script.Declaration
import PageWiring.Script.Facts
import PageWiring.Script.Parse
import PageWiring.Script.Parse.Arrow
import PageWiring.Script.Parse.Class
import PageWiring.Script.Parse.Declaration
import PageWiring.Script.Parse.Expression
import PageWiring.Script.Parse.Function
import PageWiring.Script.Parse.Jsx
import PageWiring.Script.Parse.Literal
import PageWiring.Script.Parse.Module
import PageWiring.Script.Parse.Name
import PageWiring.Script.Parse.Pattern
import PageWiring.Script.Parse.Rules
import PageWiring.Script.Parse.State
import PageWiring.Script.Parse.Statement
import PageWiring.Script.Parse.Target
import PageWiring.Script.Parse.Template
import PageWiring.Script.Parse.TypeSyntax
import PageWiring.Script.Parse.Variable
import PageWiring.Script.Source
import PageWiring.Script.Syntax
import PageWiring.Script.Token
import PageWiring.Sorting
import PageWiring.Text.AlphabeticTable
import PageWiring.Text.Basic
import PageWiring.Text.Blank
import PageWiring.Text.CaseTable
import PageWiring.Text.IdentifierTable
import PageWiring.Text.IgnorableTable
import PageWiring.Text.Letter
import PageWiring.Text.Line
import PageWiring.Text.MarkTable
import PageWiring.Text.NumericTable
import PageWiring.Text.Ranges
import PageWiring.Text.Utf8
import PageWiring.Toml.Reading
import PageWiring.Toml.Scalar
import PageWiring.Toml.Value
