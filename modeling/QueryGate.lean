import QueryGate.Calendar.Date
import QueryGate.Calendar.IsoPrinter
import QueryGate.Calendar.IsoReader
import QueryGate.Calendar.Moment
import QueryGate.Calendar.Timestamp
import QueryGate.Collector.Call
import QueryGate.Collector.Joined
import QueryGate.Collector.Model
import QueryGate.Collector.Operations
import QueryGate.Collector.Scope
import QueryGate.Collector.TieBreak
import QueryGate.FileName
import QueryGate.Filter.Canonical
import QueryGate.Filter.Findings
import QueryGate.Filter.Grammar
import QueryGate.Filter.Operator
import QueryGate.Filter.Rejection
import QueryGate.Filter.Trail
import QueryGate.Journal.Basic
import QueryGate.Journal.Disk
import QueryGate.Journal.Handler
import QueryGate.Journal.Layout
import QueryGate.Journal.Line
import QueryGate.Journal.Path
import QueryGate.Journal.Use
import QueryGate.Json.Reader
import QueryGate.Json.Writer
import QueryGate.Number.Double
import QueryGate.Number.Integer
import QueryGate.Number.Power
import QueryGate.Number.Rounding
import QueryGate.Number.Shortest
import QueryGate.Query.FilterText
import QueryGate.Query.PageQuery
import QueryGate.Query.Pagination
import QueryGate.Query.Populate
import QueryGate.Query.Sort
import QueryGate.Registry.Basic
import QueryGate.Registry.Builder
import QueryGate.Registry.Declaration
import QueryGate.Registry.Document
import QueryGate.Registry.FileContent
import QueryGate.Registry.Workshop
import QueryGate.Report
import QueryGate.Service
import QueryGate.Settings
import QueryGate.Text.Blank
import QueryGate.Text.Digit
import QueryGate.Text.Encoding
import QueryGate.Text.LetterCase
import QueryGate.Text.LineBreak
import QueryGate.Text.Printable
import QueryGate.Text.Quoted
import QueryGate.Text.Span
import QueryGate.Value.Basic
import QueryGate.Value.DateInput
import QueryGate.Value.Display
import QueryGate.Value.Order
import QueryGate.Yaml.Document
import QueryGate.Yaml.Fault
import QueryGate.Yaml.Node
import QueryGate.Yaml.Scalar
import QueryGate.Yaml.Token
import QueryGate.Proofs.Calendar.Days
import QueryGate.Proofs.Calendar.IsoRoundTrip
import QueryGate.Proofs.Calendar.Timestamps
import QueryGate.Proofs.Collector.Announcing
import QueryGate.Proofs.Collector.Collection
import QueryGate.Proofs.Collector.Confinement
import QueryGate.Proofs.Collector.Joining
import QueryGate.Proofs.Collector.Links
import QueryGate.Proofs.Collector.PageCalls
import QueryGate.Proofs.Collector.Paging
import QueryGate.Proofs.Collector.Shortcuts
import QueryGate.Proofs.Collector.TieBreaking
import QueryGate.Proofs.Collector.Turns
import QueryGate.Proofs.Filter.AllowList
import QueryGate.Proofs.Filter.ClauseGrammar
import QueryGate.Proofs.Filter.Combining
import QueryGate.Proofs.Filter.Decision
import QueryGate.Proofs.Filter.DepthLimit
import QueryGate.Proofs.Filter.FiniteNumbers
import QueryGate.Proofs.Filter.FirstViolation
import QueryGate.Proofs.Filter.Image
import QueryGate.Proofs.Filter.KeyOrder
import QueryGate.Proofs.Filter.Places
import QueryGate.Proofs.Filter.Rebuilding
import QueryGate.Proofs.Filter.Relocation
import QueryGate.Proofs.Filter.Reparsing
import QueryGate.Proofs.Filter.Rewriting
import QueryGate.Proofs.Filter.Surroundings
import QueryGate.Proofs.Filter.Validation
import QueryGate.Proofs.Filter.Visits
import QueryGate.Proofs.Journal.Files
import QueryGate.Proofs.Journal.Keeping
import QueryGate.Proofs.Journal.Requests
import QueryGate.Proofs.Journal.Lines
import QueryGate.Proofs.Journal.Loggers
import QueryGate.Proofs.Journal.Rotation
import QueryGate.Proofs.Json.Reading
import QueryGate.Proofs.Number.Overflow
import QueryGate.Proofs.Outcome
import QueryGate.Proofs.Pairs
import QueryGate.Proofs.Query.Decoding
import QueryGate.Proofs.Query.Relations
import QueryGate.Proofs.Query.Reparsing
import QueryGate.Proofs.Query.Requests
import QueryGate.Proofs.Query.Segments
import QueryGate.Proofs.Query.SortKeys
import QueryGate.Proofs.Query.SortMeaning
import QueryGate.Proofs.Query.SortPrinting
import QueryGate.Proofs.Query.Sorters
import QueryGate.Proofs.Registry.Building
import QueryGate.Proofs.Registry.Declarations
import QueryGate.Proofs.Registry.Extension
import QueryGate.Proofs.Registry.Loading
import QueryGate.Proofs.Registry.Names
import QueryGate.Proofs.Registry.Shadowing
import QueryGate.Proofs.Registry.Snapshots
import QueryGate.Proofs.Service.Recording
import QueryGate.Proofs.Service.Vetting
import QueryGate.Proofs.Value.DateInput
import QueryGate.Proofs.Value.Depth
import QueryGate.Proofs.Value.Entries
import QueryGate.Proofs.Value.Moments
import QueryGate.Proofs.Value.Reordering
import QueryGate.Proofs.Value.Tree
import QueryGate.Proofs.Value.Writing
import QueryGate.Proofs.Yaml.Keys
