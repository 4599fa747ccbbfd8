/-!
# White space

The blank characters are those with the Unicode property `White_Space`. They separate the words of
a source text and of a console line, and `trim` removes them from both ends of a text.
-/

namespace TurnScript.Text

/-- The blank characters beyond the ASCII ones, as ranges of code points with both ends
    included. -/
def blankRanges : List (Nat × Nat) :=
  [(0x0085, 0x0085), (0x00A0, 0x00A0), (0x1680, 0x1680), (0x2000, 0x200A), (0x2028, 0x2029),
   (0x202F, 0x202F), (0x205F, 0x205F), (0x3000, 0x3000)]

/-- A white space character: the space, the ASCII controls from tab to carriage return, and the
    blanks of other scripts. -/
def isBlank (c : Char) : Bool :=
  c == ' ' || (0x09 ≤ c.toNat && c.toNat ≤ 0x0D) ||
    blankRanges.any fun r => r.1 ≤ c.toNat && c.toNat ≤ r.2

/-- The characters without the blanks at their beginning. -/
def trimStart (cs : List Char) : List Char := cs.dropWhile isBlank

/-- The characters without the blanks at their end. -/
def trimEnd (cs : List Char) : List Char := (cs.reverse.dropWhile isBlank).reverse

/-- A text without the blanks at its two ends. -/
def trim (s : String) : String := String.ofList (trimEnd (trimStart s.toList))

/-- The text before the first blank, and the text behind that blank; all of it and the empty text
    if there is no blank. -/
def splitWord (s : String) : String × String :=
  let cs := s.toList
  (String.ofList (cs.takeWhile (!isBlank ·)),
    String.ofList ((cs.dropWhile (!isBlank ·)).drop 1))

/-- Every blank that core knows is a blank here. -/
theorem isBlank_of_isWhitespace {c : Char} (h : c.isWhitespace = true) : isBlank c = true := by
  simp only [Char.isWhitespace, Bool.or_eq_true, decide_eq_true_eq] at h
  rcases h with ((rfl | rfl) | rfl) | rfl <;> decide

end TurnScript.Text
