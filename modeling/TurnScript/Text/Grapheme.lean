import TurnScript.Text.Grapheme.Class

/-!
# Graphemes

`graphemes` cuts a text into its extended grapheme clusters. Two neighbours stay together

* in a carriage return with its line feed, and otherwise never next to a control character;
* in a Hangul syllable;
* before a mark, a joiner or a spacing mark, and after a mark that belongs to what follows;
* between a pictograph with its marks and a joiner, and another pictograph;
* between consonants that a linker joins;
* between the two halves of a flag.

The text is gone over once. `Ending` is what the characters of a grapheme tell about the next one.
The pieces together are the text (`flatten_graphemes`).
-/

namespace TurnScript.Text

/-- How far a sequence of pictographs has come. -/
inductive PictographState
  | none
  /-- A pictograph and its marks. -/
  | begun
  /-- A pictograph and its marks, and a joiner. -/
  | joined
  deriving DecidableEq, Repr

/-- How far a conjunct of consonants has come. -/
inductive ConjunctState
  | none
  /-- A consonant and its marks. -/
  | begun
  /-- A consonant and its marks, a linker among them. -/
  | linked
  deriving DecidableEq, Repr

/-- What the characters of a grapheme so far are, to the one that follows. -/
structure Ending where
  /-- The class of the last character. -/
  last : GraphemeClass := .other
  /-- Whether it is half of a flag that lacks the other half. -/
  halfFlag : Bool := false
  pictograph : PictographState := .none
  conjunct : ConjunctState := .none
  deriving DecidableEq, Repr

namespace Ending

/-- The sequence of pictographs after one more character. -/
def nextPictograph (e : Ending) (c : Char) : PictographState :=
  if isPictograph c then .begun
  else
    match e.pictograph, graphemeClass c with
    | .begun, .extending => .begun
    | .begun, .joiner => .joined
    | _, _ => .none

/-- The conjunct after one more character. The zero width non-joiner ends it, although it is a
    mark. -/
def nextConjunct (e : Ending) (c : Char) : ConjunctState :=
  if isConjunctConsonant c then .begun
  else if isConjunctLinker c then if e.conjunct = .none then .none else .linked
  else if c.toNat = 0x200C then .none
  else
    match graphemeClass c with
    | .extending | .joiner => e.conjunct
    | _ => .none

/-- The ending after one more character. -/
def push (e : Ending) (c : Char) : Ending :=
  { last := graphemeClass c
    halfFlag := graphemeClass c = .flagHalf && !e.halfFlag
    pictograph := e.nextPictograph c
    conjunct := e.nextConjunct c }

/-- The ending of a grapheme of one character. -/
def ofChar (c : Char) : Ending := push {} c

/-- Whether the character `c` goes on with the grapheme. -/
def admits (e : Ending) (c : Char) : Bool :=
  match e.last, graphemeClass c with
  | .carriageReturn, .lineFeed => true
  | .carriageReturn, _ | .lineFeed, _ | .control, _ => false
  | _, .carriageReturn | _, .lineFeed | _, .control => false
  | .leading, .leading | .leading, .vowel | .leading, .openSyllable
  | .leading, .closedSyllable => true
  | .openSyllable, .vowel | .openSyllable, .trailing => true
  | .vowel, .vowel | .vowel, .trailing => true
  | .closedSyllable, .trailing | .trailing, .trailing => true
  | _, .extending | _, .joiner | _, .spacing => true
  | .preceding, _ => true
  | .flagHalf, .flagHalf => e.halfFlag
  | _, _ =>
    (e.pictograph = .joined && isPictograph c) || (e.conjunct = .linked && isConjunctConsonant c)

end Ending

/-- The graphemes of the characters that follow a grapheme that is begun with `begun`, the last
    character first. -/
def graphemesFrom (e : Ending) (begun : List Char) : List Char → List (List Char)
  | [] => [begun.reverse]
  | c :: cs =>
    if e.admits c then graphemesFrom (e.push c) (c :: begun) cs
    else begun.reverse :: graphemesFrom (.ofChar c) [c] cs

/-- The graphemes of a text. -/
def graphemes : List Char → List (List Char)
  | [] => []
  | c :: cs => graphemesFrom (.ofChar c) [c] cs

theorem flatten_graphemesFrom (e : Ending) (begun cs : List Char) :
    (graphemesFrom e begun cs).flatten = begun.reverse ++ cs := by
  induction cs generalizing e begun with
  | nil => simp [graphemesFrom]
  | cons c cs ih =>
    unfold graphemesFrom
    split <;> simp [ih]

/-- Cutting a text into graphemes loses nothing. -/
theorem flatten_graphemes (cs : List Char) : (graphemes cs).flatten = cs := by
  cases cs with
  | nil => rfl
  | cons c cs => simp [graphemes, flatten_graphemesFrom]

end TurnScript.Text
