import TurnScript.Journal
import TurnScript.Store

/-!
# What evaluation acts on

A run has a result or an error, and in both cases the world it leaves: an error undoes nothing.
-/

namespace TurnScript

/-- The store, the output, and what happened. -/
structure World where
  store : Store := {}
  output : Output.Buffer := {}
  /-- The texts that the program flushed, the oldest first. -/
  chunks : Array String := #[]
  /-- What the program did, the oldest first. -/
  journal : Array Event := #[]
  deriving Inhabited, DecidableEq

/-- A computation that acts on the world and may fail. -/
abbrev Run (α : Type) := ExceptT Error (StateM World) α

namespace Run

variable {α : Type}

/-- The outcome of a computation in a world, and the world after it. -/
def outcome (run : Run α) (world : World) : Except Error α × World := (ExceptT.run run).run world

/-- A result that needs no world. -/
def ofExcept : Except Error α → Run α
  | .ok a => pure a
  | .error e => throw e

/-- The computation whose error has one more step on its trail. -/
def within (step : TrailStep) (run : Run α) : Run α := ExceptT.adapt (Error.within step) run

/-- Logs a record. -/
def log (record : LogRecord) : Run Unit :=
  modify fun w => { w with journal := w.journal.push (.log record) }

/-- Puts an entry into the output buffer. -/
def emit (entry : Output.Entry) : Run Unit :=
  modify fun w =>
    { w with output := w.output.append entry, journal := w.journal.push (.output entry) }

/-- Empties the output buffer into a chunk. -/
def flush : Run String :=
  modifyGet fun w =>
    let (chunk, output) := w.output.flush
    (chunk, { w with output, chunks := w.chunks.push chunk })

/-- How many chunks there are. -/
@[noinline]
def chunkCount : Run Nat := do return (← get).chunks.size

/-- What the store holds at `path`. -/
def read (path : String) : Run Value := do ofExcept ((← get).store.get path)

/-- Stores `v` at `path`. -/
def write (path : String) (v : Value) : Run Unit := do
  let store ← ofExcept ((← get).store.set path v)
  modify fun w => { w with store }

end Run

end TurnScript
