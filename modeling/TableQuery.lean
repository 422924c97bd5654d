import TableQuery.Text.Blank
import TableQuery.Text.Alphabetic
import TableQuery.Text.Lowercase
import TableQuery.Text.CaseFold
import TableQuery.Text.Utf8
import TableQuery.Number.Shortest
import TableQuery.Number.Reading
import TableQuery.Table
import TableQuery.Csv.Codec
import TableQuery.Query.Parser
import TableQuery.Query.Execution
import TableQuery.Date.Timestamp
import TableQuery.Engine
import TableQuery.Main
import TableQuery.Proofs.Csv.Records
import TableQuery.Proofs.Cell
import TableQuery.Proofs.Csv.Header
import TableQuery.Proofs.Row
import TableQuery.Proofs.Table
import TableQuery.Proofs.Csv.Codec
import TableQuery.Proofs.Csv.RoundTrip
import TableQuery.Proofs.Query.Outcome
import TableQuery.Proofs.Query.Scope
import TableQuery.Proofs.Query.Plan
import TableQuery.Proofs.Engine
import TableQuery.Proofs.Session
import TableQuery.Proofs.Edit
import TableQuery.Proofs.Query.Lexer
import TableQuery.Proofs.Query.Token
import TableQuery.Proofs.Query.Parser
import TableQuery.Proofs.Query.Clause
import TableQuery.Proofs.Query.Writing
import TableQuery.Proofs.Query.Positions
import TableQuery.Proofs.Query.InPlace
import TableQuery.Proofs.Unchanged
import TableQuery.Proofs.Query.Failure
import TableQuery.Proofs.Query.Ignored
import TableQuery.Proofs.Query.Kind
import TableQuery.Proofs.Report
import TableQuery.Proofs.Csv.Mark
import TableQuery.Proofs.Query.Selection
import TableQuery.Proofs.Described
import TableQuery.Proofs.Query.History
import TableQuery.Proofs.Number.Rounding
import TableQuery.Proofs.Number.Reading
import TableQuery.Proofs.Query.Pattern
import TableQuery.Proofs.Query.Comparison
import TableQuery.Proofs.CommandLine.Arguments
import TableQuery.Proofs.CommandLine.Runs
import TableQuery.Proofs.Text.Distance
import TableQuery.Proofs.Query.Resolution
import TableQuery.Proofs.Text.Lowercase
import TableQuery.Proofs.Number.Spelling
import TableQuery.Proofs.Query.Shapes
import TableQuery.Proofs.Query.Projection
import TableQuery.Proofs.Selected
import TableQuery.Proofs.Query.Repetition
import TableQuery.Proofs.Query.Rowwise
import TableQuery.Proofs.Query.Independence
import TableQuery.Proofs.Query.Literal
import TableQuery.Proofs.Csv.OwnName
import TableQuery.Proofs.Query.Cut
import TableQuery.Proofs.Query.ClauseText
import TableQuery.Proofs.Query.Ending
import TableQuery.Proofs.Text.Utf8
import TableQuery.Proofs.Csv.Bytes
import TableQuery.Proofs.Csv.Delimiter
import TableQuery.Proofs.Number.Grammar
import TableQuery.Proofs.Text.Grid
import TableQuery.Proofs.Query.Advance
import TableQuery.Proofs.Csv.Naming
import TableQuery.Proofs.Query.BareNumber
