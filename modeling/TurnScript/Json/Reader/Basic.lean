import TurnScript.Json
import TurnScript.Json.Fault

/-!
# The parts of a JSON text

Every part of a JSON text is read by a function that returns what it read and the text behind it,
which is never longer (`Read`). A part is read from behind the character that tells its kind, and
`next?` finds that character behind the blanks.
-/

namespace TurnScript.Json.Reader

/-- A text behind the part of `cs` that was read. -/
abbrev Behind (cs : List Char) := { rest : List Char // rest.length ≤ cs.length }

/-- What is read from a text, with the text behind it. -/
abbrev Read (α : Type) (cs : List Char) := Except Fault (α × Behind cs)

/-- The text behind the blanks in front. -/
def skipBlanks (cs : List Char) : List Char :=
  cs.dropWhile fun c => c == ' ' || c == '\n' || c == '\t' || c == '\r'

/-- What follows the first character behind the blanks is shorter than the text. -/
theorem length_lt_of_skipBlanks {cs rest : List Char} {c : Char}
    (h : skipBlanks cs = c :: rest) : rest.length < cs.length := by
  have hle : (skipBlanks cs).length ≤ cs.length := (List.dropWhile_suffix _).length_le
  rw [h] at hle
  exact hle

/-- The first character behind the blanks and what follows it; nothing at the end of the text. -/
def next? (cs : List Char) : Option (Char × { rest : List Char // rest.length < cs.length }) :=
  match h : skipBlanks cs with
  | [] => none
  | c :: rest => some (c, ⟨rest, length_lt_of_skipBlanks h⟩)

end TurnScript.Json.Reader
