import Rulebook.Archive
import Rulebook.Catalog
import Rulebook.Collection
import Rulebook.Condition.Basic
import Rulebook.Condition.Format
import Rulebook.Execution
import Rulebook.FieldSet
import Rulebook.Instant.Basic
import Rulebook.Instant.Reader
import Rulebook.Json.Basic
import Rulebook.Json.Member
import Rulebook.Json.Reader
import Rulebook.Json.Shape
import Rulebook.Json.Writer
import Rulebook.Number.Decimal
import Rulebook.Number.Double
import Rulebook.Number.Literal
import Rulebook.Number.Shortest
import Rulebook.Operator
import Rulebook.ParseError
import Rulebook.Proofs.Archive
import Rulebook.Proofs.Catalog
import Rulebook.Proofs.Combination
import Rulebook.Proofs.Condition.Comparison
import Rulebook.Proofs.Condition.Decomposition
import Rulebook.Proofs.Condition.Format
import Rulebook.Proofs.Condition.Printing
import Rulebook.Proofs.Condition.Sight
import Rulebook.Proofs.DataChange
import Rulebook.Proofs.Execution
import Rulebook.Proofs.Grammar
import Rulebook.Proofs.Json.Shape
import Rulebook.Proofs.Number.Ieee
import Rulebook.Proofs.Number.Notation
import Rulebook.Proofs.Number.Recognition
import Rulebook.Proofs.Number.Rounding
import Rulebook.Proofs.Number.Spelling
import Rulebook.Proofs.Register
import Rulebook.Proofs.RuleTree.Chain
import Rulebook.Proofs.RuleTree.Document
import Rulebook.Proofs.RuleTree.Leaves
import Rulebook.Proofs.RuleTree.Offence
import Rulebook.Proofs.RuleTree.Place
import Rulebook.Proofs.RuleTree.Printing
import Rulebook.Proofs.RuleTree.Refusal
import Rulebook.Proofs.Service.Contents
import Rulebook.Proofs.Service.Effect
import Rulebook.Proofs.Service.Evaluation
import Rulebook.Proofs.Service.Filling
import Rulebook.Proofs.Service.Handling
import Rulebook.Proofs.Service.Independence
import Rulebook.Proofs.Service.Ledger
import Rulebook.Proofs.Service.Outcome
import Rulebook.Proofs.Service.Source
import Rulebook.Proofs.Service.Tally
import Rulebook.Proofs.Settings.Key
import Rulebook.Proofs.Settings.Layer
import Rulebook.Proofs.Settings.Load
import Rulebook.Proofs.Token.Division
import Rulebook.Proofs.Token.Nesting
import Rulebook.Proofs.Token.Pieces
import Rulebook.Proofs.Token.Scan
import Rulebook.Proofs.Verdict
import Rulebook.RuleError
import Rulebook.RuleRecord
import Rulebook.RuleTree.Basic
import Rulebook.RuleTree.Document
import Rulebook.RuleTree.Parser
import Rulebook.Service.Answer
import Rulebook.Service.Command
import Rulebook.Service.Error
import Rulebook.Service.MediaType
import Rulebook.Service.Rejection
import Rulebook.Service.Request
import Rulebook.Service.Route
import Rulebook.Service.Run
import Rulebook.Service.Shelf
import Rulebook.Settings.Basic
import Rulebook.Settings.Layer
import Rulebook.Settings.Load
import Rulebook.Settings.Path
import Rulebook.Settings.Source
import Rulebook.Settings.Value
import Rulebook.Telemetry.Counter
import Rulebook.Telemetry.Event
import Rulebook.Telemetry.Filter
import Rulebook.Telemetry.Session
import Rulebook.Text.Class
import Rulebook.Text.Cut
import Rulebook.Text.Property.Alphabetic
import Rulebook.Text.Property.Extending
import Rulebook.Text.Property.Mark
import Rulebook.Text.Property.Number
import Rulebook.Text.Property.Unprintable
import Rulebook.Text.Property.Upper
import Rulebook.Text.Quoted
import Rulebook.Text.Ranges
import Rulebook.Text.Trim
import Rulebook.Text.Uppercase
import Rulebook.Token
