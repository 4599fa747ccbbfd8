import TurnScript.Error
import TurnScript.Output

/-!
# The journal

What a session did, in order: the entries that it put into the output buffer, and the records that
it logged for whoever looks after it. A log record is the cause of the message; its words and named
fields are in `LogRecord.fields`.
-/

namespace TurnScript

/-- How grave a log record is. -/
inductive LogLevel
  | trace
  | debug
  | info
  | warn
  deriving DecidableEq, Repr

/-- The name of a level. -/
def LogLevel.name : LogLevel → String
  | trace => "TRACE"
  | debug => "DEBUG"
  | info => "INFO"
  | warn => "WARN"

/-- Something worth logging. -/
inductive LogRecord
  /-- A form of the program that defines no procedure. -/
  | skippedForm (form : Form)
  /-- A call, seen at load time, of a procedure that the program does not define. -/
  | undefinedTarget (caller target : String)
  /-- An operator of the program, seen at load time, that is no primitive. -/
  | unimplementedOperator (name : String)
  /-- The program was loaded. -/
  | loaded (procedures unknown : Nat)
  /-- A turn begins. -/
  | invoking (procedure : String)
  /-- A turn ended with an error. -/
  | turnFailed (procedure : String) (error : Error)
  /-- The body of a procedure begins. -/
  | calling (procedure : String) (depth : Nat)
  /-- An operator that is no primitive was passed over. -/
  | unknownPrimitive (name : String)
  /-- A call of an undefined procedure, which it names by the form `callee`, was passed over. -/
  | undefinedCallee (procedure : String) (callee : Form)
  /-- The program acknowledged something. -/
  | acknowledged (tag message category : String)
  deriving DecidableEq

namespace LogRecord

/-- The level of a record. -/
def level : LogRecord → LogLevel
  | calling .. => .trace
  | invoking .. => .debug
  | loaded .. | acknowledged .. => .info
  | skippedForm .. | undefinedTarget .. | unimplementedOperator .. | turnFailed ..
  | unknownPrimitive .. | undefinedCallee .. => .warn

/-- The message of a record and then its other fields, by name. -/
def fields : LogRecord → List (String × String)
  | skippedForm form =>
    [("message", "skipping top-level form that is not a procedure definition"),
      ("form", form.display)]
  | undefinedTarget caller target =>
    [("message", "call to undefined procedure"), ("caller", caller), ("target", target)]
  | unimplementedOperator name =>
    [("message", "program uses a primitive that is not implemented"), ("primitive", name)]
  | loaded procedures unknown =>
    [("message", "loaded program"), ("procedures", toString procedures),
      ("unknown_primitives", toString unknown)]
  | invoking procedure => [("message", "invoking procedure"), ("procedure", procedure)]
  | turnFailed procedure error =>
    [("message", "turn failed"), ("procedure", procedure), ("error", error.message)]
  | calling procedure depth =>
    [("message", "calling procedure"), ("procedure", procedure), ("depth", toString depth)]
  | unknownPrimitive name =>
    [("message", "primitive not implemented"), ("primitive", name)]
  | undefinedCallee procedure _ =>
    [("message", "call to undefined procedure"), ("procedure", procedure)]
  | acknowledged tag message category =>
    [("message", "acknowledged"), ("tag", tag), ("message", message), ("category", category)]

end LogRecord

/-- One thing that a session did. -/
inductive Event
  /-- An entry was put into the output buffer. -/
  | output (entry : Output.Entry)
  /-- A record was logged. -/
  | log (record : LogRecord)
  deriving DecidableEq

namespace Event

/-- The entry, if one was put into the buffer. -/
def entry? : Event → Option Output.Entry
  | output entry => some entry
  | log _ => none

/-- The record, if one was logged. -/
def record? : Event → Option LogRecord
  | log record => some record
  | output _ => none

end Event

end TurnScript
