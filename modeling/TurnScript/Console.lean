import TurnScript.Console.CoreProgram
import TurnScript.Console.Typing
import TurnScript.Session
import TurnScript.Text.Lines

/-!
# The console

A session of the core program, driven by lines of text. A line is a request to the console itself
(`:help`, `:state`, `:quit`, `:eval`) or something said to the program, which is classified as a
command and dispatched. Backspaces in a line are carried out first; blanks around it do not count,
and empty lines are passed over.

The console ends at `:quit` or with the last line, and says goodbye in both cases. It breaks down
at a line that cannot be read, and then says nothing more.
-/

namespace TurnScript.Console

/-! ## Requests -/

/-- What a line asks for. -/
inductive Request
  | help
  | state
  | quit
  /-- The evaluation of forms. -/
  | evaluate (forms : String)
  /-- Something that is not for the console but for the program. -/
  | say (line : String)
  deriving DecidableEq, Repr

/-- What a line asks for, without the blanks around it; nothing if it is empty. -/
def request? (line : String) : Option Request :=
  let line := Text.trim line
  match line, line.toList with
  | "", _ => none
  | ":help", _ => some .help
  | ":state", _ => some .state
  | ":quit", _ | ":exit", _ => some .quit
  | _, ':' :: 'e' :: 'v' :: 'a' :: 'l' :: forms =>
    some (.evaluate (Text.trim (String.ofList forms)))
  | _, _ => some (.say line)

/-- A text with its ASCII capitals in lower case. -/
def lowerCase (s : String) : String := String.ofList (s.toList.map Char.toLower)

/-- The command that a line is: help, the start of a project that is described by what follows
    the first word, or something unknown. -/
def classify (line : String) : Value :=
  let (word, behind) := Text.splitWord line
  let description := Text.trim behind
  match lowerCase word, description with
  | "help", _ => .command "HELP" []
  | "start", "" => .command "UNKNOWN" [line]
  | "start", _ => .command "START" [description]
  | _, _ => .command "UNKNOWN" [line]

/-! ## Replies -/

/-- What is printed, text by text, and the exit code if the console ends. -/
structure Reply where
  texts : List String
  exitCode? : Option UInt32 := none
  deriving DecidableEq, Repr

/-- What is printed before the program says anything. -/
def banner : List String :=
  ["Autologos console",
    "Type `help`, `start <description>`, or :help for console commands.",
    ""]

/-- What is printed at the end. -/
def farewell : String := "Goodbye!"

/-- What is printed for `:help`. -/
def helpTexts : List String :=
  ["Console commands:",
    "  :help          - Show this help message",
    "  :state         - Dump the session state as JSON",
    "  :eval <forms>  - Evaluate ALang forms against the session",
    "  :quit          - Exit the console",
    "  :exit          - Exit the console",
    "  Ctrl+C         - Exit the console",
    "",
    "Anything else is classified and sent to DispatchUserCommand:",
    "  help               -> HELP",
    "  start <text>       -> START with <text> as the only argument",
    "  anything else      -> UNKNOWN",
    "",
    "Examples:",
    "  start Build a bridge",
    "  :eval (GET_STATE proj.title)",
    ""]

/-- The output of a program, which is not printed if it is empty. -/
def shown (output : String) : List String := if output.isEmpty then [] else [output]

/-- The reply to an evaluation: the output since the last turn and the value, or the error. After
    an error the output stays in the buffer. -/
def evaluate (session : Session) (forms : String) : Reply × Session :=
  match session.evaluate forms with
  | (.ok value, after) =>
    let (output, after) := after.flush
    ({ texts := shown output ++ [value.display] }, after)
  | (.error error, after) => ({ texts := ["Error: " ++ error.message] }, after)

/-- The reply to a request. -/
def answer (session : Session) : Request → Reply × Session
  | .help => ({ texts := helpTexts }, session)
  | .state => ({ texts := [session.store.snapshot.toJson.pretty] }, session)
  | .quit => ({ texts := [farewell], exitCode? := some 0 }, session)
  | .evaluate forms => evaluate session forms
  | .say line =>
    let (output, after) := session.runTurn Session.dispatchProcedure (classify line)
    ({ texts := shown output }, after)

/-- The reply to a line. -/
def respond (session : Session) (line : String) : Reply × Session :=
  match typed? line with
  | none => ({ texts := [], exitCode? := some 1 }, session)
  | some line =>
    match request? line with
    | some request => answer session request
    | none => ({ texts := [] }, session)

/-! ## Conversations -/

/-- The beginning: the banner, and what the program says when it is started. -/
def start (session : Session) : Reply × Session :=
  let (output, after) := session.runTurn Session.initProcedure .absent
  ({ texts := banner ++ shown output }, after)

/-- What is printed in answer to some lines, and the exit code. -/
def converse (session : Session) : List String → List String × UInt32
  | [] => ([farewell], 0)
  | line :: rest =>
    let (reply, after) := respond session line
    match reply.exitCode? with
    | some code => (reply.texts, code)
    | none =>
      let (texts, code) := converse after rest
      (reply.texts ++ texts, code)

/-- The session that the console begins with. -/
def openSession : Except Error Session := Session.load {} coreProgram

/-- The message of a console whose program cannot be loaded. -/
def loadFailure (error : Error) : String := "Could not load the core program:\n" ++ error.message

/-- The message of a console that breaks down. -/
def breakdown : String := "The console encountered an unexpected error and must exit."

/-- How the console ended. -/
structure Outcome where
  exitCode : UInt32
  output : String
  deriving DecidableEq, Repr

/-- The console on a whole input, if its program was loaded. -/
def runFrom (opened : Except Error Session) (input : String) : Outcome :=
  match opened with
  | .error _ => { exitCode := 1, output := "" }
  | .ok session =>
    let (reply, after) := start session
    let (texts, exitCode) := converse after (Text.lines input)
    { exitCode, output := Text.ofLines (reply.texts ++ texts) }

/-- The console on a whole input. -/
def run (input : String) : Outcome := runFrom openSession input

end TurnScript.Console
