import SourceReview.Advice.Basic
import SourceReview.Advice.Go
import SourceReview.Advice.Java
import SourceReview.Advice.Php
import SourceReview.Advice.Python
import SourceReview.Advice.Script
import SourceReview.Calendar.Date
import SourceReview.Calendar.Timestamp
import SourceReview.Command.Arguments
import SourceReview.Command.Run
import SourceReview.Config.Basic
import SourceReview.Config.Reading
import SourceReview.Decimal.Binary
import SourceReview.Decimal.Layout
import SourceReview.Decimal.Reading
import SourceReview.Decimal.Shortest
import SourceReview.FileTree.Basic
import SourceReview.FileTree.Collect
import SourceReview.Finding.Issue
import SourceReview.Finding.Metrics
import SourceReview.Finding.Suggestion
import SourceReview.Glob.Basic
import SourceReview.Glob.Match
import SourceReview.Glob.Parser
import SourceReview.Json.Basic
import SourceReview.Json.Parser
import SourceReview.Json.Printer
import SourceReview.Language.Basic
import SourceReview.Language.Known
import SourceReview.Listing.Basic
import SourceReview.Listing.Block
import SourceReview.Listing.CommentStyle
import SourceReview.Listing.Mask
import SourceReview.Listing.Tally
import SourceReview.Main
import SourceReview.Options.Basic
import SourceReview.Options.Threshold
import SourceReview.Outline.Basic
import SourceReview.Outline.Go
import SourceReview.Outline.Java
import SourceReview.Outline.Parameters
import SourceReview.Outline.Php
import SourceReview.Outline.Python
import SourceReview.Outline.Script
import SourceReview.Pattern.Basic
import SourceReview.Pattern.Search
import SourceReview.Proofs.Distinct
import SourceReview.Proofs.FloatOrder
import SourceReview.Proofs.Listing.Relisting
import SourceReview.Proofs.Listing.Span
import SourceReview.Proofs.Options.Resolve
import SourceReview.Proofs.Outline.Complexity
import SourceReview.Proofs.Outline.Functions
import SourceReview.Proofs.Outline.Hidden
import SourceReview.Proofs.Registry.Consistent
import SourceReview.Proofs.Registry.Effect
import SourceReview.Proofs.Registry.History
import SourceReview.Proofs.Registry.Outcome
import SourceReview.Proofs.Registry.Run
import SourceReview.Proofs.Registry.Table
import SourceReview.Proofs.Review.ComplexityGate
import SourceReview.Proofs.Review.Dependencies
import SourceReview.Proofs.Review.LowerLimit
import SourceReview.Proofs.Review.RuleSelection
import SourceReview.Proofs.Rules.OwnIssues
import SourceReview.Proofs.Score.Complexity
import SourceReview.Proofs.StableSort
import SourceReview.Proofs.Text.Lines
import SourceReview.Proofs.Text.Lowercase
import SourceReview.Record.Finding
import SourceReview.Record.Options
import SourceReview.Record.Outline
import SourceReview.Record.Readable
import SourceReview.Record.Review
import SourceReview.Registry.Basic
import SourceReview.Registry.Engine
import SourceReview.Registry.Table
import SourceReview.Report.Pretty
import SourceReview.Report.Structured
import SourceReview.Report.Styled
import SourceReview.Report.Summary
import SourceReview.Review.Analyzer
import SourceReview.Review.Basic
import SourceReview.Review.Error
import SourceReview.Review.Measure
import SourceReview.Review.Structural
import SourceReview.Rules.Basic
import SourceReview.Rules.Go
import SourceReview.Rules.Java
import SourceReview.Rules.Naming
import SourceReview.Rules.Php
import SourceReview.Rules.Python
import SourceReview.Rules.Script
import SourceReview.Score.Complexity
import SourceReview.Score.Rates
import SourceReview.Score.Rounding
import SourceReview.Score.Upkeep
import SourceReview.Text.Alphabetic
import SourceReview.Text.Blank
import SourceReview.Text.CaseMap
import SourceReview.Text.Cased
import SourceReview.Text.CodeRange
import SourceReview.Text.Lines
import SourceReview.Text.Lowercase
import SourceReview.Text.Padded
import SourceReview.Text.Path
import SourceReview.Text.Printable
import SourceReview.Text.Quoted
import SourceReview.Text.Segment
import SourceReview.Text.Utf8
import SourceReview.Text.Word
import SourceReview.Total
import SourceReview.Yaml.Character
import SourceReview.Yaml.Node
import SourceReview.Yaml.Reading
import SourceReview.Yaml.Scalar
import SourceReview.Yaml.Token
import SourceReview.Proofs.Options.Layering
import SourceReview.Proofs.Engine.Batch
import SourceReview.Proofs.Config.Changes
import SourceReview.Proofs.Engine.EntryPoints
import SourceReview.Proofs.Config.Validation
import SourceReview.Proofs.Listing.Bounds
import SourceReview.Proofs.Listing.Columns
import SourceReview.Proofs.Outline.Entries
import SourceReview.Proofs.Review.Locations
import SourceReview.Proofs.Lexing.Basic
import SourceReview.Proofs.Lexing.Slashes
import SourceReview.Proofs.Lexing.Hashes
import SourceReview.Proofs.Calendar.Date
import SourceReview.Proofs.Calendar.Timestamp
import SourceReview.Proofs.Decimal.Finite
import SourceReview.Proofs.Json.Proper
import SourceReview.Proofs.Record.RoundTrip
import SourceReview.Proofs.Command.ExitCode
import SourceReview.Proofs.Listing.Segments
import SourceReview.Proofs.Listing.NormalForm
import SourceReview.Proofs.Outline.Nesting
import SourceReview.Proofs.Outline.Indented
import SourceReview.Proofs.Outline.Parameters
import SourceReview.Proofs.Outline.Methods
import SourceReview.Proofs.Text.CaseForm
import SourceReview.Proofs.Rules.Naming
import SourceReview.Proofs.Pattern.Scan
import SourceReview.Proofs.Rules.LooseEquality
import SourceReview.Proofs.Review.AdviceCounts
import SourceReview.Proofs.Registry.Detection
import SourceReview.Proofs.Registry.Spelling
import SourceReview.Proofs.Config.Extensions
import SourceReview.Proofs.FileTree.Collect
import SourceReview.Proofs.Report.Colors
import SourceReview.Proofs.Outline.Depths
import SourceReview.Proofs.Rules.Renaming
import SourceReview.Proofs.Advice.Matches
