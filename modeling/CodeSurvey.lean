import CodeSurvey.Cache.Flight
import CodeSurvey.Cache.Recency
import CodeSurvey.Cache.Session
import CodeSurvey.Data.Basic
import CodeSurvey.Data.Check
import CodeSurvey.Data.Fault
import CodeSurvey.Data.Layout
import CodeSurvey.Dependency.Basic
import CodeSurvey.Dependency.Graph
import CodeSurvey.Dependency.Walk
import CodeSurvey.Diagnostic
import CodeSurvey.Digest.Sha256
import CodeSurvey.Engine
import CodeSurvey.Extract.Binding
import CodeSurvey.Extract.Class
import CodeSurvey.Extract.Export
import CodeSurvey.Extract.Function
import CodeSurvey.Extract.Import
import CodeSurvey.Extract.Kind
import CodeSurvey.Extract.Registry
import CodeSurvey.Extract.Structure
import CodeSurvey.Extract.Unit
import CodeSurvey.Fingerprint
import CodeSurvey.Flow.Access
import CodeSurvey.Flow.Branch
import CodeSurvey.Language
import CodeSurvey.Logging
import CodeSurvey.Metrics.Complexity
import CodeSurvey.Metrics.Decision
import CodeSurvey.Metrics.LineCount
import CodeSurvey.Metrics.Nesting
import CodeSurvey.Metrics.Token
import CodeSurvey.Number.Binary64
import CodeSurvey.Number.Grouped
import CodeSurvey.Number.Numeral
import CodeSurvey.Number.Shortest
import CodeSurvey.Parser
import CodeSurvey.Pattern
import CodeSurvey.Practice
import CodeSurvey.Report
import CodeSurvey.Settings
import CodeSurvey.Span
import CodeSurvey.Structure.Basic
import CodeSurvey.Structure.Written
import CodeSurvey.Summary
import CodeSurvey.Text.Basic
import CodeSurvey.Text.Blank
import CodeSurvey.Text.Case
import CodeSurvey.Text.Hidden
import CodeSurvey.Text.Line
import CodeSurvey.Text.Quoted
import CodeSurvey.Text.Ranges
import CodeSurvey.Text.Utf8
import CodeSurvey.Text.Word
import CodeSurvey.Tree.Basic
import CodeSurvey.Tree.Fault
import CodeSurvey.Tree.Source
import CodeSurvey.Tree.Walk
import CodeSurvey.Proofs.Cache.Move
import CodeSurvey.Proofs.Cache.Coherent
import CodeSurvey.Proofs.Cache.SingleFlight
import CodeSurvey.Proofs.Cache.History
import CodeSurvey.Proofs.Cache.Cancellation
import CodeSurvey.Proofs.Cache.LeastRecent
import CodeSurvey.Proofs.Cache.Outcome
import CodeSurvey.Proofs.Extract.Contribution
import CodeSurvey.Proofs.Tree.Preorder
import CodeSurvey.Proofs.Extract.Inventory
import CodeSurvey.Proofs.Tree.Fault
import CodeSurvey.Proofs.Tree.Comment
import CodeSurvey.Proofs.Comment.Record
import CodeSurvey.Proofs.Comment.Statement
import CodeSurvey.Proofs.Comment.Tally
import CodeSurvey.Proofs.Comment.Undisturbed
import CodeSurvey.Proofs.Comment.Aside
import CodeSurvey.Proofs.Text.Utf8
import CodeSurvey.Proofs.Fingerprint
import CodeSurvey.Proofs.Engine.Transparent
import CodeSurvey.Proofs.Data.Check
import CodeSurvey.Proofs.Structure.Written
import CodeSurvey.Proofs.Extract.Unit
import CodeSurvey.Proofs.Parser
import CodeSurvey.Proofs.Dependency.Chain
import CodeSurvey.Proofs.Dependency.Mutual
import CodeSurvey.Proofs.Dependency.Walk
import CodeSurvey.Proofs.Dependency.Graph
import CodeSurvey.Proofs.Dependency.Longest
import CodeSurvey.Proofs.Dependency.Search
import CodeSurvey.Proofs.Dependency.Recursion
import CodeSurvey.Proofs.Dependency.Cycle
import CodeSurvey.Proofs.Report.Written
import CodeSurvey.Proofs.LineEnd.Flow
import CodeSurvey.Proofs.LineEnd.Metrics
import CodeSurvey.Proofs.LineEnd.Unit
import CodeSurvey.Proofs.Report.Independence
import CodeSurvey.Proofs.Number.Binary64
import CodeSurvey.Proofs.Number.Numeral
import CodeSurvey.Proofs.Extract.IntegerLiteral
import CodeSurvey.Proofs.Extract.ImportBinding
import CodeSurvey.Proofs.Extract.Assignment
import CodeSurvey.Proofs.Tree.Range
import CodeSurvey.Proofs.Extract.SpanNesting
import CodeSurvey.Proofs.Extract.Enclosing
import CodeSurvey.Proofs.Text.Line
import CodeSurvey.Proofs.Text.Cut
import CodeSurvey.Proofs.Text.Blank
import CodeSurvey.Proofs.Text.Border
import CodeSurvey.Proofs.Flow.Access
import CodeSurvey.Proofs.Flow.Block
import CodeSurvey.Proofs.Flow.Offset
import CodeSurvey.Proofs.Flow.Branch
import CodeSurvey.Proofs.Flow.Laminar
import CodeSurvey.Proofs.Extract.Scope
import CodeSurvey.Proofs.Extract.ExportedDeclaration
import CodeSurvey.Proofs.Flow.Condition
import CodeSurvey.Proofs.Metrics.LineCount
import CodeSurvey.Proofs.Metrics.BlockComment
import CodeSurvey.Proofs.Metrics.CommentLine
import CodeSurvey.Proofs.Metrics.Slice
import CodeSurvey.Proofs.Metrics.Nesting
import CodeSurvey.Proofs.Metrics.Decision
import CodeSurvey.Proofs.Text.Case
import CodeSurvey.Proofs.Pattern.Name
import CodeSurvey.Proofs.Pattern.Marker
import CodeSurvey.Proofs.Practice.Threshold
import CodeSurvey.Proofs.Practice.OwnLine
import CodeSurvey.Proofs.Summary.Concept
import CodeSurvey.Proofs.Tree.Stack
