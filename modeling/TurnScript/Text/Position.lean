/-!
# Positions in a text

Faults are reported by their byte offset in the UTF-8 encoding of a text, some by line and column.
A text is cut by characters, so an offset is also counted in characters (`charsBefore?`), and a
line and column is turned back into an offset (`offsetOf`). A column is the number of bytes since
the last line feed, and lines are counted from one.
-/

namespace TurnScript.Text

/-- The number of bytes that the characters take in UTF-8. -/
def byteLength : List Char → Nat
  | [] => 0
  | c :: cs => c.utf8Size + byteLength cs

/-- The number of characters that fill exactly the first `offset` bytes; none if the offset lies
    beyond the end or inside a character. -/
def charsBefore? : (offset : Nat) → List Char → Option Nat
  | 0, _ => some 0
  | _ + 1, [] => none
  | offset + 1, c :: cs =>
    if c.utf8Size ≤ offset + 1 then (charsBefore? (offset + 1 - c.utf8Size) cs).map (· + 1)
    else none

/-- The line, counted from `line`, and the column of the byte at `offset`, if `column` bytes of the
    first line were passed before. -/
def lineColumnFrom (line column : Nat) : (offset : Nat) → List Char → Nat × Nat
  | 0, _ => (line, column)
  | _ + 1, [] => (line, column)
  | offset + 1, c :: cs =>
    if c = '\n' then lineColumnFrom (line + 1) 0 offset cs
    else if c.utf8Size ≤ offset + 1 then
      lineColumnFrom line (column + c.utf8Size) (offset + 1 - c.utf8Size) cs
    else (line, column + (offset + 1))

/-- The line of the byte at `offset` and the number of bytes since the last line feed before it. -/
def lineColumn (offset : Nat) (cs : List Char) : Nat × Nat := lineColumnFrom 1 0 offset cs

/-- The number of bytes in the first `lines` lines, with their line feeds; all of them if there are
    no more lines. -/
def bytesInLines : (lines : Nat) → List Char → Nat
  | 0, _ => 0
  | _ + 1, [] => 0
  | lines + 1, c :: cs =>
    c.utf8Size + (if c = '\n' then bytesInLines lines cs else bytesInLines (lines + 1) cs)

/-- The offset of the byte before which `column` bytes of the line were read, so of the last byte
    read; never beyond the end of the text. -/
def offsetOf (line column : Nat) (cs : List Char) : Nat :=
  min (bytesInLines (line - 1) cs + (column - 1)) (byteLength cs)

theorem byteLength_append (as bs : List Char) :
    byteLength (as ++ bs) = byteLength as + byteLength bs := by
  induction as with
  | nil => simp [byteLength]
  | cons a as ih => simp [byteLength, ih, Nat.add_assoc]

/-- This is the size of the text in UTF-8. -/
theorem byteLength_toList (s : String) : byteLength s.toList = s.utf8ByteSize := by
  suffices h : ∀ cs : List Char, byteLength cs = (String.ofList cs).utf8ByteSize by
    rw [h, String.ofList_toList]
  intro cs
  induction cs with
  | nil => rfl
  | cons c cs ih =>
    rw [← List.singleton_append, String.ofList_append, String.utf8ByteSize_append,
      byteLength_append, ih, ← String.singleton_eq_ofList, String.utf8ByteSize_singleton]
    rfl

/-- An offset never lies beyond the end of the text. -/
theorem offsetOf_le (line column : Nat) (cs : List Char) :
    offsetOf line column cs ≤ byteLength cs :=
  Nat.min_le_right _ _

end TurnScript.Text
