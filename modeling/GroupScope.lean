import GroupScope.CommandLine.Arguments
import GroupScope.CommandLine.Command
import GroupScope.CommandLine.Completion
import GroupScope.CommandLine.Environment
import GroupScope.CommandLine.Error
import GroupScope.CommandLine.Preparation
import GroupScope.CommandLine.Run
import GroupScope.CommandLine.Usage
import GroupScope.Directory
import GroupScope.Directory.Table
import GroupScope.Error
import GroupScope.Event
import GroupScope.Expression
import GroupScope.Expression.Item
import GroupScope.Expression.Resolution
import GroupScope.Expression.Resolve
import GroupScope.Files
import GroupScope.Id
import GroupScope.Json
import GroupScope.Json.Printer
import GroupScope.Json.Reader
import GroupScope.Keyed
import GroupScope.Lookup
import GroupScope.Main
import GroupScope.Number.Binary64
import GroupScope.Number.Numeral
import GroupScope.Number.Power
import GroupScope.Number.Shortest
import GroupScope.Parameters
import GroupScope.Parameters.Absorb
import GroupScope.Parameters.Codec
import GroupScope.Predicate
import GroupScope.Predicate.Clause
import GroupScope.Predicate.Compile
import GroupScope.Predicate.Set
import GroupScope.Proofs.CommandLine.Agreement
import GroupScope.Proofs.CommandLine.Failure
import GroupScope.Proofs.CommandLine.FixedPoint
import GroupScope.Proofs.CommandLine.SettingsFile
import GroupScope.Proofs.Files.Store
import GroupScope.Proofs.Json.Lexing
import GroupScope.Proofs.Json.RoundTrip
import GroupScope.Proofs.Lookup
import GroupScope.Proofs.Number.Digits
import GroupScope.Proofs.Parameters.ClosedForm
import GroupScope.Proofs.Parameters.Reread
import GroupScope.Proofs.Parameters.RoundTrip
import GroupScope.Proofs.Parameters.Session
import GroupScope.Proofs.Parameters.Update
import GroupScope.Proofs.Predicate.Compiled
import GroupScope.Proofs.Predicate.Decoding
import GroupScope.Proofs.Predicate.Meaning
import GroupScope.Proofs.Predicate.Precedence
import GroupScope.Proofs.Predicate.Text
import GroupScope.Proofs.Report.Values
import GroupScope.Proofs.Request.Encodings
import GroupScope.Proofs.Request.Junk
import GroupScope.Proofs.Request.NativeList
import GroupScope.Proofs.Request.SharedKeys
import GroupScope.Proofs.Resolution.Answers
import GroupScope.Proofs.Resolution.Ids
import GroupScope.Proofs.Resolution.Outcome
import GroupScope.Proofs.Resolution.Shapes
import GroupScope.Proofs.Result
import GroupScope.Proofs.Search.Acceptance
import GroupScope.Proofs.Search.Degradation
import GroupScope.Proofs.Search.Groupless
import GroupScope.Proofs.Search.Independence
import GroupScope.Proofs.Search.Privacy
import GroupScope.Proofs.Search.Retention
import GroupScope.Proofs.Search.Selection
import GroupScope.Proofs.Sql.Condition
import GroupScope.Proofs.Sql.Grammar
import GroupScope.Proofs.Sql.Outline
import GroupScope.Proofs.Sql.Token
import GroupScope.Proofs.Text.Words
import GroupScope.Report.Explanation
import GroupScope.Report.Parameters
import GroupScope.Report.Predicates
import GroupScope.Report.Style
import GroupScope.Request
import GroupScope.Settings
import GroupScope.Settings.Document
import GroupScope.Text.CaseTables
import GroupScope.Text.Class
import GroupScope.Text.EditDistance
import GroupScope.Text.Lowercase
import GroupScope.Text.Quoted
import GroupScope.Text.Unprintable
import GroupScope.Text.Words
import GroupScope.Toml
import GroupScope.Toml.Reader
import GroupScope.Toml.Scalar
import GroupScope.Wire
import GroupScope.Proofs.Number.Spelling
import GroupScope.Proofs.Resolution.Coherence
import GroupScope.Proofs.Resolution.Pieces
import GroupScope.Proofs.Number.Nearest
import GroupScope.Proofs.Number.Truncation
import GroupScope.Proofs.Expression.Readers
import GroupScope.Proofs.Resolution.Mirror
import GroupScope.Proofs.Request.Numbers
import GroupScope.Proofs.Search.Memberships
import GroupScope.Proofs.Text.ByteOrder
import GroupScope.Proofs.Text.EditDistance
import GroupScope.Proofs.Directory.Closest
import GroupScope.Proofs.Report.NearMiss
import GroupScope.Proofs.Report.Replacement
import GroupScope.Proofs.Event.Items
import GroupScope.Proofs.Event.Replay
import GroupScope.Proofs.Resolution.Cleaning
import GroupScope.Proofs.Predicate.LastWrite
import GroupScope.Proofs.Report.Lines
