import TurnScript.Text.Position

/-!
# Errors in a text that is read

A `ParseError` says what is wrong with a text, where, and shows the surroundings. The context is a
window of at most a hundred characters that begins twenty characters before the fault: it is marked
where it leaves text out, line feeds are shown as `\n`, and carriage returns are left out.
-/

namespace TurnScript

/-- The kinds of errors in a text. -/
inductive ParseError.Kind
  /-- A bad token, a stray parenthesis, a bad escape. -/
  | invalidSyntax
  /-- The text ended before the form did. -/
  | incomplete
  /-- Lists are nested beyond the limit. -/
  | tooDeeplyNested
  /-- There is more text where one form was expected. -/
  | trailingContent
  /-- The text is correct, but stands for nothing a value can hold. -/
  | unsupported
  deriving DecidableEq, Repr

/-- What is wrong with a text, and where. -/
structure ParseError where
  kind : ParseError.Kind
  message : String
  /-- The byte offset of the fault. -/
  offset : Nat := 0
  /-- The text around the fault. -/
  context : Option String := none
  /-- The token or character that was found at fault. -/
  found : Option String := none
  deriving DecidableEq, Repr

namespace ParseError

/-- How many characters before the fault the context shows. -/
def leadLength : Nat := 20

/-- How many characters the context shows at most. -/
def contextLength : Nat := 100

/-- The mark of text that was left out. -/
def ellipsis : List Char := "[...]".toList

/-- A character of the context in one line. -/
def visible (c : Char) : List Char :=
  match c with
  | '\n' => ['\\', 'n']
  | '\r' => []
  | _ => [c]

/-- The context of the character with index `index`. -/
def contextAt (index : Nat) (source : List Char) : List Char :=
  let start := index - leadLength
  let window := (source.drop start).take contextLength
  (if 0 < start then ellipsis else []) ++ window.flatMap visible ++
    (if start + window.length < source.length then ellipsis else [])

/-- The error at a byte offset of `source`. The context of an offset that is no character boundary
    of the source is that of its beginning. -/
def inSource (kind : Kind) (message source : String) (offset : Nat)
    (found : Option String) : ParseError :=
  let cs := source.toList
  let index := (Text.charsBefore? offset cs).getD 0
  { kind, message, offset, found, context := some (String.ofList (contextAt index cs)) }

/-- The error in one paragraph: its place and message, what was found, and the context. -/
def display (e : ParseError) : String :=
  "ParseError at offset " ++ toString e.offset ++ ": " ++ e.message ++
    (match e.found with | some found => "\nFound: " ++ found | none => "") ++
    (match e.context with | some context => "\nContext: " ++ context | none => "")

end ParseError

end TurnScript
