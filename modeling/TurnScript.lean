import TurnScript.Console
import TurnScript.Decimal.Shortest
import TurnScript.Evaluation
import TurnScript.Form.Reader
import TurnScript.Json.Conversion
import TurnScript.Main
import TurnScript.Program.Check
import TurnScript.Session
import TurnScript.Proofs.Error
import TurnScript.Proofs.Evaluation.Congruence
import TurnScript.Proofs.Evaluation.DepthLimit
import TurnScript.Proofs.Form.Nesting
import TurnScript.Proofs.Form.Operators
import TurnScript.Proofs.Form.Reader
import TurnScript.Proofs.Form.RoundTrip
import TurnScript.Proofs.Keyed
import TurnScript.Proofs.Output
import TurnScript.Proofs.Program.Check
import TurnScript.Proofs.Session.Check
import TurnScript.Proofs.Session.Errors
import TurnScript.Proofs.Session.Evaluation
import TurnScript.Proofs.Session.Footprint
import TurnScript.Proofs.Session.Loading
import TurnScript.Proofs.Session.Output
import TurnScript.Proofs.Session.Turn
import TurnScript.Proofs.World
import TurnScript.Proofs.Evaluation.Failure
import TurnScript.Proofs.Evaluation.Levels
import TurnScript.Proofs.Form.Descent
import TurnScript.Proofs.Form.Stack
import TurnScript.Proofs.Token.Grammar
import TurnScript.Proofs.Console.Core
import TurnScript.Proofs.Console.Machine
import TurnScript.Proofs.Console.Refinement
import TurnScript.Proofs.Console.Output
import TurnScript.Proofs.Store.Read
import TurnScript.Proofs.Json.Conversion
import TurnScript.Proofs.Json.Scalar
import TurnScript.Proofs.Json.Layout
import TurnScript.Proofs.Json.Reader
import TurnScript.Proofs.Json.RoundTrip
import TurnScript.Proofs.Store.Commutation
import TurnScript.Proofs.Evaluation.Scopes
import TurnScript.Proofs.Evaluation.Mirroring
import TurnScript.Proofs.Evaluation.Binding
import TurnScript.Proofs.Program.Flattening
import TurnScript.Proofs.Evaluation.Flattening
import TurnScript.Proofs.Program.Definitions
import TurnScript.Proofs.Value.LooseEquality
import TurnScript.Proofs.Form.Location
import TurnScript.Proofs.Evaluation.Trail
import TurnScript.Proofs.Evaluation.Lookup
import TurnScript.Proofs.Evaluation.Shadowing
import TurnScript.Proofs.Form.Numeral
import TurnScript.Proofs.Json.Numeral
import TurnScript.Proofs.Text.Position
import TurnScript.Proofs.Text.LineColumn
import TurnScript.Proofs.Json.Stopping
import TurnScript.Proofs.Json.Location
