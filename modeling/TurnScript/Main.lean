import TurnScript.Console

/-!
# The command line

Reads the lines of standard input and prints the console's replies as they come.
-/

namespace TurnScript.Main

/-- Prints the texts of a reply. -/
def print (reply : Console.Reply) : IO Unit := do
  IO.print (Text.ofLines reply.texts)
  (← IO.getStdout).flush

/-- Answers line after line. -/
partial def loop (session : Session) : IO UInt32 := do
  let line ← (← IO.getStdin).getLine
  if line.isEmpty then
    print { texts := [Console.farewell] }
    return 0
  let (reply, after) := Console.respond session line
  print reply
  match reply.exitCode? with
  | some code =>
    unless code = 0 do IO.eprintln Console.breakdown
    return code
  | none => loop after

end TurnScript.Main

/-- Runs the console. -/
def main : IO UInt32 := do
  match TurnScript.Console.openSession with
  | .error error =>
    IO.eprintln (TurnScript.Console.loadFailure error)
    return 1
  | .ok session =>
    let (reply, after) := TurnScript.Console.start session
    TurnScript.Main.print reply
    TurnScript.Main.loop after
