import TurnScript.Text.Grapheme
import TurnScript.Text.Position

/-!
# Lines as they are typed

A backspace in a line takes back the grapheme before it that is still there, and does nothing at
the beginning. What is to be taken back is known by its size in bytes, and a size is kept in a
single byte: of a grapheme of 256 bytes or more only the remainder is taken back. If that would cut
a character in two, the line cannot be read.
-/

namespace TurnScript.Console

/-- The character that takes back what was typed before it. -/
def backspace : Char := '\x08'

/-- A line so far. -/
structure Typing where
  /-- The characters, the last first. -/
  letters : List Char := []
  /-- The sizes of the graphemes, the last first. -/
  sizes : List UInt8 := []
  deriving DecidableEq, Repr

/-- The characters without the first `bytes` bytes of them, unless these end within a
    character. -/
def dropBytes? : (bytes : Nat) → List Char → Option (List Char)
  | 0, cs => some cs
  | _ + 1, [] => none
  | bytes + 1, c :: cs =>
    if c.utf8Size ≤ bytes + 1 then dropBytes? (bytes + 1 - c.utf8Size) cs else none

namespace Typing

/-- The line without its last grapheme. -/
def takeBack? (t : Typing) : Option Typing :=
  match t.sizes with
  | [] => some t
  | size :: sizes => do return { letters := ← dropBytes? size.toNat t.letters, sizes }

/-- The line after one more grapheme. -/
def enter? (t : Typing) (grapheme : List Char) : Option Typing :=
  if grapheme = [backspace] then t.takeBack?
  else
    some {
      letters := grapheme.reverse ++ t.letters
      sizes := .ofNat (Text.byteLength grapheme) :: t.sizes }

end Typing

/-- The line that is left when all backspaces have been carried out. -/
def typed? (line : String) : Option String := do
  let t ← (Text.graphemes line.toList).foldlM Typing.enter? {}
  return String.ofList t.letters.reverse

end TurnScript.Console
