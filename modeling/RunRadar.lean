import RunRadar.Config.Basic
import RunRadar.Config.Environment
import RunRadar.Engine.Basic
import RunRadar.Engine.Checks
import RunRadar.Engine.Event
import RunRadar.Engine.Interpreter
import RunRadar.Engine.Task
import RunRadar.Filter.Basic
import RunRadar.Filter.Card
import RunRadar.Filter.Catalog
import RunRadar.Filter.Params
import RunRadar.Filter.Registry
import RunRadar.Filter.Scanned
import RunRadar.Filter.Stored
import RunRadar.Instant
import RunRadar.Json.Basic
import RunRadar.Json.Pretty
import RunRadar.Json.Reader
import RunRadar.Json.Record
import RunRadar.Json.Writer
import RunRadar.Main
import RunRadar.Number.Binary64
import RunRadar.Number.Reading
import RunRadar.Number.Shortest
import RunRadar.Outcome.Basic
import RunRadar.Outcome.Json
import RunRadar.Pattern.Basic
import RunRadar.Pattern.CharClass
import RunRadar.Pattern.Match
import RunRadar.Pattern.Reader
import RunRadar.Predicate.Basic
import RunRadar.Predicate.Match
import RunRadar.Radar
import RunRadar.Roster.Basic
import RunRadar.Roster.Draft
import RunRadar.Run.Basic
import RunRadar.Run.Json
import RunRadar.Run.Virtual
import RunRadar.Scan.Flight
import RunRadar.Scan.Pass
import RunRadar.Scan.Report
import RunRadar.Scan.Schedule
import RunRadar.Sql.Condition
import RunRadar.Sql.Query
import RunRadar.Sql.Statement
import RunRadar.Store.Basic
import RunRadar.Store.Connection
import RunRadar.Store.Error
import RunRadar.Store.Memory
import RunRadar.Store.Migration
import RunRadar.Store.Row
import RunRadar.Store.Session
import RunRadar.Text.Blank
import RunRadar.Text.Case
import RunRadar.Text.CaseTable
import RunRadar.Text.FormUrl
import RunRadar.Text.Hex
import RunRadar.Text.Quoted
import RunRadar.Text.Ranges
import RunRadar.Text.Search
import RunRadar.Text.Utf8
import RunRadar.Tree.Basic
import RunRadar.Tree.Compile
import RunRadar.Tree.CompileError
import RunRadar.Tree.Json
import RunRadar.Tree.Wire
import RunRadar.Unicode.Age
import RunRadar.Unicode.Break
import RunRadar.Unicode.CaseChange
import RunRadar.Unicode.Category
import RunRadar.Unicode.Folding
import RunRadar.Unicode.Property
import RunRadar.Unicode.Runs
import RunRadar.Unicode.Script
import RunRadar.Unicode.Word
import RunRadar.Uuid
import RunRadar.Worker.Basic
import RunRadar.Worker.Command
import RunRadar.Worker.Usage
import RunRadar.Proofs.Engine.Action
import RunRadar.Proofs.Engine.Denotation
import RunRadar.Proofs.Engine.Task
import RunRadar.Proofs.Engine.Sequence
import RunRadar.Proofs.Engine.Evaluation
import RunRadar.Proofs.Engine.Verdict
import RunRadar.Proofs.Store.Memory
import RunRadar.Proofs.Engine.Compilation
import RunRadar.Proofs.Scan.Scoring
import RunRadar.Proofs.Scan.Pass
import RunRadar.Proofs.Scan.History
import RunRadar.Proofs.Scan.Correctness
import RunRadar.Proofs.Engine.Refinement
import RunRadar.Proofs.Tree.Value
import RunRadar.Proofs.Tree.Grammar
import RunRadar.Proofs.Json.Scalar
import RunRadar.Proofs.Json.Value
import RunRadar.Proofs.Json.RoundTrip
import RunRadar.Proofs.Text.FormUrl
import RunRadar.Proofs.Tree.Wire
import RunRadar.Proofs.Scan.Denotation
import RunRadar.Proofs.Scan.Isolation
import RunRadar.Proofs.Store.Backlog
import RunRadar.Proofs.Scan.Turn
import RunRadar.Proofs.Scan.Drain
import RunRadar.Proofs.Scan.Starvation
import RunRadar.Proofs.Engine.Exchange
import RunRadar.Proofs.Scan.Ledger
import RunRadar.Proofs.Scan.Accounts
import RunRadar.Proofs.Sql.Token
import RunRadar.Proofs.Sql.Meaning
import RunRadar.Proofs.Sql.Placeholder
import RunRadar.Proofs.Sql.Erasure
import RunRadar.Proofs.Sql.Binding
import RunRadar.Proofs.Scan.Preview
import RunRadar.Proofs.Sql.Truth
import RunRadar.Proofs.Scan.SingleFlight
import RunRadar.Proofs.Json.Depth
import RunRadar.Proofs.Tree.Key
import RunRadar.Proofs.Tree.Link
import RunRadar.Proofs.Outcome.ReadBack
import RunRadar.Proofs.Filter.Catalog
import RunRadar.Proofs.Engine.Stored
import RunRadar.Proofs.Engine.Visit
import RunRadar.Proofs.Engine.Rounds
import RunRadar.Proofs.Engine.Order
import RunRadar.Proofs.Engine.Call
import RunRadar.Proofs.Engine.Reserve
import RunRadar.Proofs.Engine.Trace
import RunRadar.Proofs.Engine.Course
import RunRadar.Proofs.Tree.Occurrence
import RunRadar.Proofs.Scan.Failure
import RunRadar.Proofs.Scan.Routing
import RunRadar.Proofs.Engine.Explanation
import RunRadar.Proofs.Number.Whole
import RunRadar.Proofs.Filter.Params
import RunRadar.Proofs.Filter.Numeric
import RunRadar.Proofs.Number.Reading
import RunRadar.Proofs.Filter.Schema
import RunRadar.Proofs.Filter.Threshold
import RunRadar.Proofs.Text.Lowering
import RunRadar.Proofs.Filter.Search
import RunRadar.Proofs.Run.PlainText
import RunRadar.Proofs.Pattern.Sweep
import RunRadar.Proofs.Pattern.Spaced
import RunRadar.Proofs.Pattern.Row
import RunRadar.Proofs.Filter.CardNumber
import RunRadar.Proofs.Filter.Registration
import RunRadar.Proofs.Filter.Declaration
import RunRadar.Proofs.Roster.Request
import RunRadar.Proofs.Run.Duration
import RunRadar.Proofs.Sql.Like
import RunRadar.Proofs.Text.Escape
import RunRadar.Proofs.Text.Url
import RunRadar.Proofs.Config.Address
import RunRadar.Proofs.Filter.Checksum
