import Survey.Text.Blank
import Survey.Text.Unprintable
import Survey.Text.Word
import Survey.Text.Quoted
import Survey.Data.Entries
import Survey.Float.Binary64
import Survey.Float.Shortest
import Survey.Decimal.Basic
import Survey.Decimal.Text
import Survey.Json.Value
import Survey.Json.Number
import Survey.Json.Read
import Survey.Json.Decode
import Survey.Decimal.Json
import Survey.Json.Write
import Survey.Answer.Value
import Survey.Answer.Slot
import Survey.Answer.Store
import Survey.Answer.Json
import Survey.Rule.Predicate
import Survey.Rule.Route
import Survey.Rule.Calculation
import Survey.Rule.Json
import Survey.Answer.Edit
import Survey.Exclusive.Transition
import Survey.Exclusive.Enforcer
import Survey.Exclusive.Json
import Survey.Summary.Format
import Survey.Schema.Definition
import Survey.Schema.Questionnaire
import Survey.Schema.Json
import Survey.Catalog
import Survey.Routing.Path
import Survey.Routing.Progress
import Survey.Engine.Config
import Survey.Toml.Fault
import Survey.Toml.Scan
import Survey.Toml.Strings
import Survey.Toml.Numbers
import Survey.Toml.Tree
import Survey.Toml.Parse
import Survey.Toml.Report
import Survey.Engine.ConfigToml
import Survey.Engine.Session
import Survey.Engine.Log
import Survey.Engine.Error
import Survey.Engine.Store
import Survey.Summary.Rows
import Survey.Engine.Core
import Survey.Engine.Json
import Survey.Engine.Script
import Survey.Host.Files
import Survey.Logging.Record
import Survey.Logging.Filter
import Survey.Text.Similarity
import Survey.Replay.Options
import Survey.Replay.Failure
import Survey.Replay.Program
import Survey.Schema.Builder
import Survey.Main
import Survey.Proofs.Routing.Locality
import Survey.Proofs.Schema.FirstPass
import Survey.Proofs.Schema.Accepted
import Survey.Proofs.Routing.Walk
import Survey.Proofs.Answer.Store
import Survey.Proofs.Exclusive.Enforcer
import Survey.Proofs.Exclusive.Group
import Survey.Proofs.Exclusive.Questionnaire
import Survey.Proofs.Engine.Run
import Survey.Proofs.Engine.Steps
import Survey.Proofs.Engine.Submit
import Survey.Proofs.Engine.Quiet
import Survey.Proofs.Engine.Sessions
import Survey.Proofs.Engine.Failure
import Survey.Proofs.Engine.Frame
import Survey.Proofs.Json.Tokens
import Survey.Proofs.Decimal.Text
import Survey.Proofs.Json.Numbers
import Survey.Proofs.Json.Reading
import Survey.Proofs.Json.ReadBack
import Survey.Proofs.Engine.Snapshot
import Survey.Proofs.Engine.Sorted
import Survey.Proofs.Engine.Reachable
import Survey.Proofs.Engine.Script
import Survey.Proofs.Engine.Marks
import Survey.Proofs.Engine.Invariant
import Survey.Proofs.Exclusive.Runs
import Survey.Proofs.Exclusive.Writes
import Survey.Proofs.Engine.Typing
import Survey.Proofs.Engine.Completion
import Survey.Proofs.Schema.Passing
import Survey.Proofs.Schema.References
import Survey.Proofs.Schema.Validity
import Survey.Proofs.Rule.Totals
import Survey.Proofs.Exclusive.Refinement
import Survey.Proofs.Exclusive.Sequence
import Survey.Proofs.Engine.Landing
import Survey.Proofs.Engine.Acceptance
import Survey.Proofs.Decimal.Addition
import Survey.Proofs.Decimal.Grammar
import Survey.Proofs.Decimal.Canonical
import Survey.Proofs.Engine.Redisplay
import Survey.Proofs.Engine.Recording
import Survey.Proofs.Decimal.Order
import Survey.Proofs.Decimal.Widening
import Survey.Proofs.Schema.Lookups
import Survey.Proofs.Summary.Review
import Survey.Proofs.Rule.Predicates
import Survey.Proofs.Routing.Sections
