import TurnScript.SourceFault
import TurnScript.Text.Blank

/-!
# Tokens

A source text is a sequence of parentheses, quoted texts and words, separated by blanks and
comments. A word runs up to the next blank, parenthesis, quote or semicolon; a comment is opened by
two semicolons and runs to the end of its line; inside quotes neither has a meaning.

`Token.scan` goes over the text once, a character at a time. `Scanner` is what it remembers from
the characters before: `step` takes one more character and hands out the tokens that end with it,
`finish` those that end with the text. A token that is begun is kept with the offset of its first
character, and its characters are collected in reverse.
-/

namespace TurnScript

/-- What a token is. -/
inductive Token.Kind
  /-- An opening parenthesis. -/
  | opening
  /-- A closing parenthesis. -/
  | closing
  /-- A quoted text, with its escapes resolved. -/
  | text (content : String)
  /-- A run of characters that may be a number or a symbol. -/
  | word (letters : String)
  deriving DecidableEq, Repr

/-- A token and the byte offset of its first character. -/
structure Token where
  kind : Token.Kind
  offset : Nat
  deriving DecidableEq, Repr

namespace Token

/-- A character that a word may hold. -/
def isWordChar (c : Char) : Bool :=
  !Text.isBlank c && c != '(' && c != ')' && c != '"' && c != ';'

/-- The character that an escape letter stands for. -/
def unescape? (c : Char) : Option Char :=
  match c with
  | 'n' => some '\n'
  | 't' => some '\t'
  | 'r' => some '\r'
  | '\\' => some '\\'
  | '"' => some '"'
  | _ => none

/-- What the characters before have left open. -/
inductive Scanner
  /-- Nothing: the next character may begin a token. -/
  | between
  /-- A semicolon, which has to be followed by another. -/
  | semicolon (start : Nat)
  /-- A comment. -/
  | comment
  /-- A word. -/
  | word (start : Nat) (letters : List Char)
  /-- A quoted text. -/
  | quoted (start : Nat) (content : List Char)
  /-- A quoted text, and in it a backslash. -/
  | escape (start : Nat) (content : List Char)
  deriving DecidableEq, Repr

/-- The token of a word whose characters were collected in reverse. -/
def ofLetters (start : Nat) (letters : List Char) : Token :=
  ⟨.word (String.ofList letters.reverse), start⟩

namespace Scanner

/-- A character that does not go on with a token: it is one, begins one or separates two. -/
def start (comments : Bool) (offset : Nat) (c : Char) :
    Except LocatedFault (List Token × Scanner) :=
  if c = '(' then .ok ([⟨.opening, offset⟩], between)
  else if c = ')' then .ok ([⟨.closing, offset⟩], between)
  else if c = '"' then .ok ([], quoted offset [])
  else if c = ';' then
    if comments then .ok ([], semicolon offset) else .error ⟨.strayCharacter c, offset⟩
  else if Text.isBlank c then .ok ([], between)
  else .ok ([], word offset [c])

/-- The character at `offset`: the tokens that it ends and what it leaves open. -/
def step (comments : Bool) (offset : Nat) (c : Char) :
    Scanner → Except LocatedFault (List Token × Scanner)
  | between => start comments offset c
  | semicolon first =>
    if c = ';' then .ok ([], comment) else .error ⟨.strayCharacter ';', first⟩
  | comment => .ok ([], if c = '\n' then between else comment)
  | word first letters =>
    if isWordChar c then .ok ([], word first (c :: letters))
    else (start comments offset c).map fun (ts, s) => (ofLetters first letters :: ts, s)
  | quoted first content =>
    if c = '"' then .ok ([⟨.text (String.ofList content.reverse), first⟩], between)
    else if c = '\\' then .ok ([], escape first content)
    else .ok ([], quoted first (c :: content))
  | escape first content =>
    match unescape? c with
    | some d => .ok ([], quoted first (d :: content))
    -- the fault is at the backslash, one byte before
    | none => .error ⟨.unknownEscape, offset - 1⟩

/-- The tokens that end with the text. -/
def finish : Scanner → Except LocatedFault (List Token)
  | between | comment => .ok []
  | semicolon first => .error ⟨.strayCharacter ';', first⟩
  | word first letters => .ok [ofLetters first letters]
  | quoted first _ | escape first _ => .error ⟨.unterminatedText, first⟩

/-- The tokens of the characters from `offset` on. -/
def run (comments : Bool) (s : Scanner) (offset : Nat) :
    List Char → Except LocatedFault (List Token)
  | [] => s.finish
  | c :: cs => do
    let (ended, s') ← s.step comments offset c
    let later ← run comments s' (offset + c.utf8Size) cs
    return ended ++ later

end Scanner

/-- The tokens of a source text, `comments` telling whether two semicolons open a comment. -/
def scan (comments : Bool) (source : String) : Except LocatedFault (List Token) :=
  Scanner.between.run comments 0 source.toList

end Token

end TurnScript
