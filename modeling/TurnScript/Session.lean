import TurnScript.Evaluation
import TurnScript.Form.Reader
import TurnScript.Json.Conversion
import TurnScript.Program.Check

/-!
# Sessions

A session is a loaded program with its store and its output. It is driven in turns: a turn calls a
procedure and collects everything that is put out meanwhile, flushed or not, so that the buffer is
empty afterwards. Between turns, single forms can be evaluated against the session; their output
stays in the buffer.
-/

namespace TurnScript

namespace Session

/-- The procedure that is run once after loading. -/
def initProcedure : String := "OnSystemInit"

/-- The procedure that is given the user's commands. -/
def dispatchProcedure : String := "DispatchUserCommand"

/-- Where the argument of a turn is recorded, unless another path is chosen. -/
def defaultContextPath : String := "session.parsed_command_details"

/-- How a session reads and evaluates. -/
structure Config where
  reading : ReadOptions := {}
  depthLimit : Nat := 256
  /-- Where the argument of each turn is recorded in the store; nowhere if there is no path. -/
  contextPath : Option String := some defaultContextPath
  deriving DecidableEq

end Session

/-- A program at work. -/
structure Session where
  config : Session.Config
  program : Program
  store : Store := {}
  output : Output.Buffer := {}
  /-- What was done since loading, the oldest first. -/
  journal : Array Event := #[]

namespace Session

/-! ## Loading -/

/-- A session, or why there is none, and what was logged on the way. -/
structure Loading where
  records : List LogRecord
  outcome : Except Error Session

/-- Reads a program and checks it. -/
def loading (config : Config) (source : String) : Loading :=
  match Form.readAll config.reading source with
  | .error error => ⟨[], .error (.parse error)⟩
  | .ok forms =>
    let skipped := (Program.skipped forms).map LogRecord.skippedForm
    match Program.ofForms forms with
    | .error error => ⟨skipped, .error error⟩
    | .ok program =>
      let summary := .loaded program.size program.unknownOperators.length
      ⟨skipped ++ program.checkRecords ++ [summary], .ok { config, program }⟩

/-- The session of a program that is given as text. -/
def load (config : Config) (source : String) : Except Error Session :=
  (loading config source).outcome

/-! ## Running -/

variable (session : Session)

/-- What evaluation in the session goes by. -/
def setting : Setting :=
  { program := session.program, depthLimit := session.config.depthLimit }

/-- The world of a run, in which nothing was flushed yet. -/
def world : World :=
  { store := session.store, output := session.output, journal := session.journal }

/-- The session after a run that left `world`. -/
def resume (world : World) : Session :=
  { session with store := world.store, output := world.output, journal := world.journal }

/-- The session with one more record in its journal. -/
def logged (record : LogRecord) : Session :=
  { session with journal := session.journal.push (.log record) }

/-- Empties the output buffer into a text. -/
def flush : String × Session :=
  let (text, output) := session.output.flush
  (text, { session with output })

/-- Whether a turn's argument is to be recorded, and where. -/
def recordPath? (argument : Value) : Option String :=
  if argument.isAbsent then none else session.config.contextPath

/-- What a turn runs: its argument is recorded, and the procedure called with it. -/
def turn (procedure : String) (argument : Value) : Run Unit := do
  match session.recordPath? argument with
  | some path => Run.write path argument
  | none => pure ()
  let arguments := if argument.isAbsent then [] else [argument]
  discard (session.setting.call procedure arguments 0)

/-- What a turn puts out: its chunks and then what is left in the buffer, without the empty
    ones. -/
def collect (chunks : List String) (rest : String) : String :=
  "\n".intercalate ((chunks ++ [rest]).filter (!·.isEmpty))

/-- Runs a turn: its output, whether it failed, and the session after it. A procedure that is not
    defined leaves the store alone. -/
def execute (procedure : String) (argument : Value) :
    (String × Except Error Unit) × Session :=
  let begun := session.logged (.invoking procedure)
  match session.program.lookUp procedure with
  | .error error =>
    let (text, after) := begun.flush
    ((text, .error error), after)
  | .ok _ =>
    let (result, world) := (session.turn procedure argument).outcome begun.world
    let (rest, after) := (begun.resume world).flush
    ((collect world.chunks.toList rest, result), after)

/-- A turn whose error is the answer, with the output dropped. -/
def invoke (procedure : String) (argument : Value) : Except Error String × Session :=
  match session.execute procedure argument with
  | ((text, .ok ()), after) => (.ok text, after)
  | ((_, .error error), after) => (.error error, after.logged (.turnFailed procedure error))

/-- A turn whose error is put below its output. -/
def runTurn (procedure : String) (argument : Value) : String × Session :=
  match session.execute procedure argument with
  | ((text, .ok ()), after) => (text, after)
  | ((text, .error error), after) =>
    let notice := "ERROR: " ++ error.message
    (if text.isEmpty then notice else text ++ "\n" ++ notice,
      after.logged (.turnFailed procedure error))

/-- The first turn. -/
def init : Except Error String × Session := session.invoke initProcedure .absent

/-- The turn of a user's command. -/
def dispatch (command : String) (arguments : List String) : Except Error String × Session :=
  session.invoke dispatchProcedure (.command command arguments)

/-- A turn whose argument is given as JSON text. -/
def invokeJson (procedure json : String) : Except Error String × Session :=
  match Value.parseJson json with
  | .error error => (.error (.parse error), session)
  | .ok argument => session.invoke procedure argument

/-- The value of the last of several forms, which are evaluated in the outermost scope. -/
def evaluateForms (setting : Setting) (forms : List Form) : Run Value :=
  forms.foldlM (fun _ form => setting.eval form {}) .absent

/-- Evaluates forms that are given as text. -/
def evaluate (source : String) : Except Error Value × Session :=
  match Form.readAll session.config.reading source with
  | .error error => (.error (.parse error), session)
  | .ok forms =>
    let (result, world) := (evaluateForms session.setting forms).outcome session.world
    (result, session.resume world)

end Session

end TurnScript
