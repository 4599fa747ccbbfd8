import TurnScript.ParseError

/-!
# Faults in a source text

Everything that can be wrong with the text of a program, as a cause. A fault becomes an
error (`LocatedFault.toParseError`) once its place and the text are known.
-/

namespace TurnScript

/-- What is wrong with a source text. -/
inductive SourceFault
  /-- A quoted text without its closing quote. -/
  | unterminatedText
  /-- A backslash before a character that makes no escape. -/
  | unknownEscape
  /-- A character that begins no token. -/
  | strayCharacter (c : Char)
  /-- A closing parenthesis without its opening one. -/
  | strayClosing
  /-- A list inside `limit` others. -/
  | tooDeeplyNested (limit : Nat)
  /-- An opening parenthesis without its closing one. -/
  | unclosedList
  /-- A word that begins like a number and is none. -/
  | badNumber (word : String)
  /-- A word that is neither a number nor a symbol. -/
  | badSymbol (word : String)
  /-- No form where one was expected. -/
  | noForm
  /-- Several forms where one was expected. -/
  | manyForms (count : Nat)
  deriving DecidableEq, Repr

namespace SourceFault

/-- The kind of error that a fault is. -/
def kind : SourceFault → ParseError.Kind
  | unterminatedText | unclosedList | noForm => .incomplete
  | tooDeeplyNested _ => .tooDeeplyNested
  | manyForms _ => .trailingContent
  | unknownEscape | strayCharacter _ | strayClosing | badNumber _ | badSymbol _ => .invalidSyntax

/-- The message for a fault at a byte offset. -/
def message (offset : Nat) : SourceFault → String
  | unterminatedText => "Unterminated string literal starting at offset " ++ toString offset
  | unknownEscape => "Invalid escape sequence at offset " ++ toString offset
  | strayCharacter _ => "Unexpected character at offset " ++ toString offset
  | strayClosing => "Unexpected ')' at offset " ++ toString offset
  | tooDeeplyNested limit =>
    "Expression too deeply nested (max depth: " ++ toString limit ++ ")"
  | unclosedList => "Unclosed '(' opened at offset " ++ toString offset
  | badNumber word => "Invalid number literal '" ++ word ++ "'"
  | badSymbol word => "Invalid symbol '" ++ word ++ "'"
  | noForm => "Expected an expression"
  | manyForms count => "Expected one expression, found " ++ toString count

/-- The text that stands at the fault's place and is to blame. -/
def found? : SourceFault → Option String
  | unterminatedText => some "\""
  | unknownEscape => some "\\"
  | strayCharacter c => some (String.singleton c)
  | strayClosing => some ")"
  | tooDeeplyNested _ | unclosedList => some "("
  | badNumber word | badSymbol word => some word
  | noForm | manyForms _ => none

end SourceFault

/-- A fault and its byte offset. -/
structure LocatedFault where
  fault : SourceFault
  offset : Nat
  deriving DecidableEq, Repr

/-- The error that a fault in `source` is reported as. -/
def LocatedFault.toParseError (source : String) (l : LocatedFault) : ParseError :=
  .inSource l.fault.kind (l.fault.message l.offset) source l.offset l.fault.found?

end TurnScript
