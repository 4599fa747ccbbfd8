/-!
# Lines

A text is cut into lines at its line feeds. A line feed at the end ends the last line and begins no
other.
-/

namespace TurnScript.Text

/-- The lines of a text, without their line feeds. -/
def linesOf : List Char → List (List Char)
  | [] => []
  | c :: cs =>
    if c = '\n' then [] :: linesOf cs
    else
      match linesOf cs with
      | [] => [[c]]
      | line :: rest => (c :: line) :: rest

/-- The lines of a text. -/
def lines (text : String) : List String := (linesOf text.toList).map String.ofList

/-- The text that consists of these lines, each with a line feed at its end. -/
def ofLines (lines : List String) : String := String.join (lines.map (· ++ "\n"))

end TurnScript.Text
