/-!
# Output

What a program says to the user is collected line by line, each line with a tag, until it is
flushed. A flush empties the buffer and yields its lines as one text.
-/

namespace TurnScript.Output

/-- A line of output and its tag. -/
structure Entry where
  tag : String
  message : String
  deriving DecidableEq, Repr

/-- The entry as the user sees it. -/
def Entry.display (e : Entry) : String := "[" ++ e.tag ++ "] " ++ e.message

/-- The entries as the user sees them, one below the other. -/
def displayAll (entries : List Entry) : String := "\n".intercalate (entries.map Entry.display)

/-- The output that was not flushed yet, the oldest entry first. -/
structure Buffer where
  entries : Array Entry := #[]
  deriving DecidableEq, Repr, Inhabited

namespace Buffer

/-- The buffer with one more entry at its end. -/
def append (e : Entry) (b : Buffer) : Buffer := { entries := b.entries.push e }

/-- The text of everything in the buffer, and the buffer without it. -/
def flush (b : Buffer) : String × Buffer := (displayAll b.entries.toList, {})

/-- Whether there is nothing to flush. -/
def isEmpty (b : Buffer) : Bool := b.entries.isEmpty

@[simp] theorem entries_append (e : Entry) (b : Buffer) :
    (b.append e).entries = b.entries.push e := rfl

@[simp] theorem flush_fst (b : Buffer) : b.flush.1 = displayAll b.entries.toList := rfl

@[simp] theorem entries_flush (b : Buffer) : b.flush.2.entries = #[] := rfl

end Buffer

end TurnScript.Output
