/-!
# State paths

A path is written with dots between its segments, as in `proj.title`. `pieces` cuts a text at its
dots; a path is a text all of whose pieces hold something.
-/

namespace TurnScript.Path

/-- The pieces after one more character in front: a dot begins a piece, and any other character
    belongs to the first. -/
def putInFront (c : Char) (pieces : List (List Char)) : List (List Char) :=
  if c = '.' then [] :: pieces
  else
    match pieces with
    | [] => [[c]]
    | piece :: rest => (c :: piece) :: rest

/-- The pieces between the dots of a text; without a dot it is one piece. -/
def piecesOf (cs : List Char) : List (List Char) := cs.foldr putInFront [[]]

/-- The pieces of a text. -/
def pieces (text : String) : List String := (piecesOf text.toList).map String.ofList

/-- The segments of a path; none if one of them is empty, as in the empty path. -/
def segments? (path : String) : Option (List String) :=
  let parts := pieces path
  if parts.any String.isEmpty then none else some parts

/-- The text with which a list of segments is written. -/
def ofSegments (segments : List String) : String := ".".intercalate segments

/-- A text has one piece at least. -/
theorem piecesOf_ne_nil (cs : List Char) : piecesOf cs ≠ [] := by
  cases cs with
  | nil => simp [piecesOf]
  | cons c cs =>
    simp only [piecesOf, List.foldr_cons, putInFront]
    split
    · simp
    · split <;> simp

end TurnScript.Path
