import TurnScript.Arity
import TurnScript.Form
import TurnScript.ParseError
import TurnScript.Value

/-!
# Errors

Every way in which loading a program or running it can fail, as a cause. The wording is in the
`message` functions alone.

A mismatch of kinds and a failed evaluation carry a *trail*: the list forms and procedures that
were under way, from the innermost to the outermost (`Error.within`). Other errors name what went
wrong themselves and carry none.
-/

namespace TurnScript

/-- What is wrong with a procedure definition. -/
inductive DefinitionFault
  /-- Fewer than a name and a parameter list. -/
  | tooShort (count : Nat)
  /-- A name that is no symbol. -/
  | badName (form : Form)
  /-- Parameters that are no list. -/
  | parametersNotList (name : String) (form : Form)
  /-- A parameter that is no symbol. -/
  | badParameter (name : String) (form : Form)
  /-- A parameter that is listed twice. -/
  | repeatedParameter (name parameter : String)
  deriving DecidableEq

/-- The fault in words. -/
def DefinitionFault.message : DefinitionFault → String
  | tooShort count =>
    "expected a name and a parameter list, got " ++ toString count ++ " argument(s)"
  | badName form => "procedure name must be a symbol, got " ++ form.display
  | parametersNotList name form =>
    "parameters of '" ++ name ++ "' must be a list, got " ++ form.display
  | badParameter name form =>
    "parameters of '" ++ name ++ "' must be symbols, got " ++ form.display
  | repeatedParameter name parameter =>
    "duplicate parameter '" ++ parameter ++ "' in '" ++ name ++ "'"

/-- A value or form of the wrong kind. -/
inductive Mismatch
  /-- A value without a plain text. -/
  | notText (value : Value)
  /-- An argument without a plain text; `what` names the argument. -/
  | argumentNotText (operation what : String) (value : Value)
  /-- A value that is no number. -/
  | notNumber (kind : Value.Kind)
  /-- A value that is no string. -/
  | notString (kind : Value.Kind)
  /-- An argument that is no string; `what` names the argument. -/
  | argumentNotString (operation what : String) (kind : Value.Kind)
  /-- An argument that is no list. -/
  | argumentNotList (operation : String) (kind : Value.Kind)
  /-- A key looked up in what is no map. -/
  | noMapForKey (key : String) (kind : Value.Kind)
  /-- A list with another head than a symbol. -/
  | operatorNotSymbol (head : Form)
  /-- Bindings that are no list. -/
  | bindingsNotList (form : Form)
  /-- A binding that is not a name and an expression. -/
  | badBinding (form : Form)
  deriving DecidableEq

/-- The mismatch in words. -/
def Mismatch.message : Mismatch → String
  | notText value => "expected text, got " ++ value.kind.name ++ ": " ++ value.display
  | argumentNotText operation what value =>
    operation ++ " requires text for " ++ what ++ ", got " ++ value.display
  | notNumber kind => "expected number, got " ++ kind.name
  | notString kind => "expected string, got " ++ kind.name
  | argumentNotString operation what kind =>
    operation ++ " requires a string " ++ what ++ ", got " ++ kind.name
  | argumentNotList operation kind => operation ++ " requires a list, got " ++ kind.name
  | noMapForKey key kind => "cannot look up key '" ++ key ++ "' in " ++ kind.name
  | operatorNotSymbol head => "operator must be a symbol, got " ++ head.display
  | bindingsNotList form => "LET bindings must be a list, got " ++ form.display
  | badBinding form => "LET binding must be (name expression), got " ++ form.display

/-- A form that has no value. -/
inductive EvaluationFault
  /-- Evaluation went deeper than `limit` levels. -/
  | depthExceeded (limit : Nat)
  /-- The list without elements. -/
  | emptyList
  deriving DecidableEq

/-- The fault in words. -/
def EvaluationFault.message : EvaluationFault → String
  | depthExceeded limit =>
    "Evaluation depth limit exceeded (max: " ++ toString limit ++ ")"
  | emptyList => "Cannot evaluate empty list"

/-- What was under way when an error arose. -/
inductive TrailStep
  /-- A list form was evaluated. -/
  | evaluating (form : Form)
  /-- A statement of this procedure was executed. -/
  | executing (procedure : String)
  deriving DecidableEq

/-- The line that a step adds to a message. -/
def TrailStep.message : TrailStep → String
  | evaluating form => "\n  Context: while evaluating: " ++ form.display
  | executing procedure => "\n  In procedure: " ++ procedure

/-- Why a program was not loaded, or a form not evaluated. -/
inductive Error
  | parse (error : ParseError)
  /-- Two definitions of one name. -/
  | duplicateProcedure (name : String)
  | invalidDefinition (fault : DefinitionFault)
  /-- A procedure that the program does not define. -/
  | procedureNotFound (name : String)
  /-- A state path without a value. -/
  | stateKeyNotFound (path : String)
  /-- A state path through what is no map; `path` leads to it. -/
  | statePathConflict (path : String)
  /-- A state path with an empty segment. -/
  | invalidStatePath (path : String)
  /-- A key that a map lacks. -/
  | keyNotFound (key : String)
  /-- An index outside a list. -/
  | indexOutOfRange (index : Int64) (length : Nat)
  | mismatch (cause : Mismatch) (trail : List TrailStep)
  | evaluation (cause : EvaluationFault) (trail : List TrailStep)
  /-- The wrong number of arguments. -/
  | arity (operation : String) (expected : Arity) (count : Nat)
  deriving DecidableEq

namespace Error

/-- The error as it is shown. -/
def message : Error → String
  | parse error => error.display
  | duplicateProcedure name => "Duplicate procedure definition: '" ++ name ++ "'"
  | invalidDefinition fault => "Invalid procedure definition: " ++ fault.message
  | procedureNotFound name => "Procedure '" ++ name ++ "' not found."
  | stateKeyNotFound path => "State key not found: " ++ path
  | statePathConflict path => "State path conflict: '" ++ path ++ "' holds a non-map value"
  | invalidStatePath path => "Invalid state path: '" ++ path ++ "'"
  | keyNotFound key => "Key not found: " ++ key
  | indexOutOfRange index length =>
    "Index " ++ Integer.toText index ++ " out of range for list of length " ++ toString length
  | mismatch cause trail =>
    "Type error: " ++ cause.message ++ String.join (trail.map TrailStep.message)
  | evaluation cause trail =>
    "EvaluationError: " ++ cause.message ++ String.join (trail.map TrailStep.message)
  | arity operation expected count =>
    "ArityError: " ++ operation ++ " expects " ++ expected.display ++ " arguments, got " ++
      toString count

/-- Whether the error keeps a program from being loaded, rather than ending a turn. -/
def isLoadError : Error → Bool
  | parse _ | duplicateProcedure _ | invalidDefinition _ => true
  | _ => false

/-- The error with one more step on its trail, if it carries one. -/
def within (step : TrailStep) : Error → Error
  | mismatch cause trail => mismatch cause (trail ++ [step])
  | evaluation cause trail => evaluation cause (trail ++ [step])
  | error => error

end Error

/-- The number of arguments of an operation is checked against its arity. -/
def Arity.check (expected : Arity) (operation : String) (count : Nat) : Except Error Unit :=
  if expected.accepts count then .ok () else .error (.arity operation expected count)

end TurnScript
