import QueryAssembly.Assembly.Aggregate
import QueryAssembly.Assembly.Basic
import QueryAssembly.Assembly.Event
import QueryAssembly.Assembly.Relevance
import QueryAssembly.Assembly.Simple
import QueryAssembly.Binary64.Basic
import QueryAssembly.Binary64.Literal
import QueryAssembly.Binary64.Rounding
import QueryAssembly.Binary64.Shortest
import QueryAssembly.CommandLine
import QueryAssembly.Decimal.Numeral
import QueryAssembly.Json.Basic
import QueryAssembly.Json.Body
import QueryAssembly.Json.Builder
import QueryAssembly.Json.Fault
import QueryAssembly.Json.Number
import QueryAssembly.Json.Printer
import QueryAssembly.Json.Script
import QueryAssembly.Json.Token
import QueryAssembly.Main
import QueryAssembly.Ordered.Members
import QueryAssembly.Ordered.Table
import QueryAssembly.Proofs.Assembly.Aggregate
import QueryAssembly.Proofs.Assembly.Comparison
import QueryAssembly.Proofs.Assembly.Events
import QueryAssembly.Proofs.Assembly.Modes
import QueryAssembly.Proofs.Assembly.Relevance
import QueryAssembly.Proofs.Assembly.Scores
import QueryAssembly.Proofs.Assembly.Simple
import QueryAssembly.Proofs.Assembly.Written
import QueryAssembly.Proofs.Binary64.Description
import QueryAssembly.Proofs.Binary64.Literal
import QueryAssembly.Proofs.Binary64.Rounding
import QueryAssembly.Proofs.Binary64.Shortest
import QueryAssembly.Proofs.Building.Interleaving
import QueryAssembly.Proofs.Building.Runs
import QueryAssembly.Proofs.CommandLine.Grammar
import QueryAssembly.Proofs.CommandLine.Output
import QueryAssembly.Proofs.CommandLine.Run
import QueryAssembly.Proofs.Json.ByteOrder
import QueryAssembly.Proofs.Json.Canonical
import QueryAssembly.Proofs.Json.Depth
import QueryAssembly.Proofs.Json.Equality
import QueryAssembly.Proofs.Json.Gaps
import QueryAssembly.Proofs.Json.Integers
import QueryAssembly.Proofs.Json.Numerals
import QueryAssembly.Proofs.Json.Paths
import QueryAssembly.Proofs.Json.Recognition
import QueryAssembly.Proofs.Json.Reordered
import QueryAssembly.Proofs.Json.Scanning
import QueryAssembly.Proofs.Json.Scripts
import QueryAssembly.Proofs.Json.Spelling
import QueryAssembly.Proofs.Json.Strings
import QueryAssembly.Proofs.Json.Tokens
import QueryAssembly.Proofs.Ordered.Lookup
import QueryAssembly.Proofs.Outcome
import QueryAssembly.Proofs.Request.Comparison
import QueryAssembly.Proofs.Request.Description
import QueryAssembly.Proofs.Request.Revisions
import QueryAssembly.Proofs.Request.Root
import QueryAssembly.Proofs.Request.Serialization
import QueryAssembly.Proofs.Request.Unambiguous
import QueryAssembly.Proofs.Request.Wire
import QueryAssembly.Proofs.Shape.Agreement
import QueryAssembly.Proofs.Shape.Alike
import QueryAssembly.Proofs.Shape.Denotation
import QueryAssembly.Proofs.Shape.Embedding
import QueryAssembly.Proofs.Shape.Forms
import QueryAssembly.Proofs.Shape.Frames
import QueryAssembly.Proofs.Shape.Keyed
import QueryAssembly.Proofs.Shape.Lossless
import QueryAssembly.Proofs.Shape.Readable
import QueryAssembly.Proofs.Shape.RoundTrip
import QueryAssembly.Proofs.Shape.Sound
import QueryAssembly.Proofs.Specification.Alike
import QueryAssembly.Proofs.Specification.Depth
import QueryAssembly.Proofs.Specification.Forms
import QueryAssembly.Proofs.Specification.Integers
import QueryAssembly.Proofs.Specification.Places
import QueryAssembly.Proofs.Specification.Readers
import QueryAssembly.Proofs.Specification.RoundTrip
import QueryAssembly.Proofs.Specification.Shapes
import QueryAssembly.Proofs.Text.Quoted
import QueryAssembly.Proofs.Tuning.Environment
import QueryAssembly.Proofs.Tuning.Standard
import QueryAssembly.Proofs.Validation.Checks
import QueryAssembly.Proofs.Validation.Coverage
import QueryAssembly.Proofs.Validation.FirstFailure
import QueryAssembly.Proofs.Validation.SearchedFields
import QueryAssembly.Reading.Error
import QueryAssembly.Reading.Leaf
import QueryAssembly.Reading.Origin
import QueryAssembly.Request.Aggregation
import QueryAssembly.Request.Clause
import QueryAssembly.Request.Description
import QueryAssembly.Request.Document
import QueryAssembly.Request.Query
import QueryAssembly.Request.Serialization
import QueryAssembly.Request.SortDirective
import QueryAssembly.Session
import QueryAssembly.Shape.Basic
import QueryAssembly.Shape.Reader
import QueryAssembly.Shape.Writer
import QueryAssembly.Spec.Aggregate
import QueryAssembly.Spec.Building
import QueryAssembly.Spec.Constraint
import QueryAssembly.Spec.Names
import QueryAssembly.Spec.Operand
import QueryAssembly.Spec.RawOptions
import QueryAssembly.Spec.Relevance
import QueryAssembly.Spec.Simple
import QueryAssembly.Spec.Sort
import QueryAssembly.Spec.Validation
import QueryAssembly.Specification
import QueryAssembly.Text.Blank
import QueryAssembly.Text.Position
import QueryAssembly.Text.Quoted
import QueryAssembly.Text.Unprintable
import QueryAssembly.Tuning.Basic
import QueryAssembly.Tuning.Environment
