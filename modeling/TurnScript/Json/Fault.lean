import TurnScript.Text.Position

/-!
# Faults in a JSON text

What can be wrong with a JSON text. A fault is placed by what was still unread when it was noticed
(`unread`) and by how many bytes of that were looked at (`ahead`); its line and column are those of
the byte behind them.
-/

namespace TurnScript.Json

/-- What is wrong with a JSON text. -/
inductive Cause
  | endInValue
  | endInList
  | endInObject
  | endInString
  | noValue
  | badWord
  | noColon
  | noListSeparator
  | noObjectSeparator
  | keyNotString
  | trailingComma
  | trailingCharacters
  | badNumber
  | numberOutOfRange
  | badEscape
  | controlCharacter
  | loneSurrogate
  | unfinishedPair
  | tooDeep
  deriving DecidableEq, Repr

/-- The cause in words. -/
def Cause.message : Cause → String
  | endInValue => "EOF while parsing a value"
  | endInList => "EOF while parsing a list"
  | endInObject => "EOF while parsing an object"
  | endInString => "EOF while parsing a string"
  | noValue => "expected value"
  | badWord => "expected ident"
  | noColon => "expected `:`"
  | noListSeparator => "expected `,` or `]`"
  | noObjectSeparator => "expected `,` or `\x7d`"
  | keyNotString => "key must be a string"
  | trailingComma => "trailing comma"
  | trailingCharacters => "trailing characters"
  | badNumber => "invalid number"
  | numberOutOfRange => "number out of range"
  | badEscape => "invalid escape"
  | controlCharacter => "control character (\\u0000-\\u001F) found while parsing a string"
  | loneSurrogate => "lone leading surrogate in hex escape"
  | unfinishedPair => "unexpected end of hex escape"
  | tooDeep => "recursion limit exceeded"

/-- A cause and its place. -/
structure Fault where
  cause : Cause
  /-- The text that was not read yet. -/
  unread : List Char
  /-- How many bytes of it were looked at. -/
  ahead : Nat := 0
  deriving DecidableEq, Repr

namespace Fault

/-- The number of bytes of `text` that were read or looked at. -/
def position (text : List Char) (f : Fault) : Nat :=
  let length := Text.byteLength text
  min (length - Text.byteLength f.unread + f.ahead) length

/-- The line and column of a fault in `text`. -/
def lineColumn (text : List Char) (f : Fault) : Nat × Nat :=
  Text.lineColumn (f.position text) text

/-- The fault in words, with its place. -/
def message (text : List Char) (f : Fault) : String :=
  let (line, column) := f.lineColumn text
  f.cause.message ++ " at line " ++ toString line ++ " column " ++ toString column

/-- The byte offset of a fault. -/
def offset (text : List Char) (f : Fault) : Nat :=
  let (line, column) := f.lineColumn text
  Text.offsetOf line column text

end Fault

end TurnScript.Json
