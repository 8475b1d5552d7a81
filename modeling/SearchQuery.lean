import SearchQuery.Decimal
import SearchQuery.Binary64.Scaled
import SearchQuery.Binary64.Basic
import SearchQuery.Binary64.Quick
import SearchQuery.Binary64.Shortest
import SearchQuery.Binary64.Notation
import SearchQuery.Number
import SearchQuery.Json.Quoted
import SearchQuery.Json.Basic
import SearchQuery.Json.Raw
import SearchQuery.Json.Document
import SearchQuery.Timestamp.Calendar
import SearchQuery.Timestamp.Rfc3339
import SearchQuery.Timestamp
import SearchQuery.Entries
import SearchQuery.Value.Basic
import SearchQuery.Value.OfJson
import SearchQuery.Operator
import SearchQuery.Error
import SearchQuery.Literal
import SearchQuery.Comparison
import SearchQuery.Condition
import SearchQuery.Geo.Basic
import SearchQuery.Geo.Json
import SearchQuery.Fragment
import SearchQuery.Filter
import SearchQuery.Direction
import SearchQuery.SortOrder
import SearchQuery.Text.Unseen
import SearchQuery.Builder.Expression
import SearchQuery.Builder.Basic
import SearchQuery.Builder.Inspect
import SearchQuery.Builder.Store
import SearchQuery.Builder.Workspace
import SearchQuery.CommandLine.Arguments
import SearchQuery.CommandLine.Run
import SearchQuery.Main
import SearchQuery.Proofs.Absence
import SearchQuery.Proofs.BuilderDocuments
import SearchQuery.Proofs.Text.Operand
import SearchQuery.Proofs.PredicateText
import SearchQuery.Proofs.FilterText
import SearchQuery.Proofs.Rewording
import SearchQuery.Proofs.Renumbering
import SearchQuery.Proofs.ZeroSign
import SearchQuery.Proofs.FirstFault
import SearchQuery.Proofs.Dictionary
import SearchQuery.Proofs.Builder.Owners
import SearchQuery.Proofs.Builder.Persistence
import SearchQuery.Proofs.Json.Markers
import SearchQuery.Proofs.Json.Image
import SearchQuery.Proofs.Binary64.Interval
import SearchQuery.Proofs.Binary64.Nearest
import SearchQuery.Proofs.Binary64.Decimal
import SearchQuery.Proofs.Binary64.Order
import SearchQuery.Proofs.Binary64.Shortest
import SearchQuery.Proofs.Binary64.SignificantDigits
import SearchQuery.Proofs.Binary64.Fewest
import SearchQuery.Proofs.Text.DigitRun
import SearchQuery.Proofs.Text.NumberToken
import SearchQuery.Proofs.NumberText
import SearchQuery.Proofs.NumberNotation
import SearchQuery.Proofs.StringLiteral
import SearchQuery.Proofs.Text.FixedDigits
import SearchQuery.Proofs.Timestamp.Days
import SearchQuery.Proofs.Timestamp.Grammar
import SearchQuery.Proofs.Timestamp.Instant
import SearchQuery.Proofs.Timestamp.Truncation
import SearchQuery.Proofs.Timestamp.LocalTime
import SearchQuery.Proofs.Json.Members
import SearchQuery.Proofs.Binary64.Integers
import SearchQuery.Proofs.NumberValue
import SearchQuery.Proofs.NumberKinds
import SearchQuery.Proofs.Directions
import SearchQuery.Proofs.Geo.Readers
import SearchQuery.Proofs.Operands
import SearchQuery.Proofs.Regrouping
import SearchQuery.Proofs.Json.Grammar
import SearchQuery.Proofs.Json.Nesting
import SearchQuery.Proofs.Json.Written
import SearchQuery.Proofs.Geo.RoundTrip
import SearchQuery.Proofs.Geo.Rearranged
import SearchQuery.Proofs.Geo.Checks
import SearchQuery.Proofs.SortDocument
import SearchQuery.Proofs.SortTokens
import SearchQuery.Proofs.CommandLine.Values
import SearchQuery.Proofs.CommandLine.Clauses
import SearchQuery.Proofs.CommandLine.SortOutput
