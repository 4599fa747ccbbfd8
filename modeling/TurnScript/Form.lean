import TurnScript.Text.Alphanumeric
import TurnScript.Integer

/-!
# Forms

A program is a list of forms: symbols, quoted texts, integers and parenthesised lists. The head of
a list names its operator. `Form.display` writes a form as source text: a text is quoted with the
five escapes that the reader knows, and the elements of a list are separated by one space.
-/

namespace TurnScript

/-- A node of a program's text. -/
inductive Form
  /-- A bare name: an operator, a parameter, a state path. -/
  | symbol (name : String)
  /-- A quoted text, with its escapes resolved. -/
  | text (content : String)
  /-- An integer literal. -/
  | number (value : Int64)
  /-- A parenthesised list. -/
  | list (items : List Form)
  deriving Inhabited

namespace Form

mutual

/-- Equality of forms is decided along their structure. -/
def decideEq : (a b : Form) → Decidable (a = b)
  | .symbol a, .symbol b => decidable_of_iff (a = b) (by simp)
  | .text a, .text b => decidable_of_iff (a = b) (by simp)
  | .number a, .number b => decidable_of_iff (a = b) (by simp)
  | .list as, .list bs =>
    match decideEqAll as bs with
    | .isTrue h => .isTrue (by rw [h])
    | .isFalse h => .isFalse fun e => h (by injection e)
  | .symbol _, .text _ | .symbol _, .number _ | .symbol _, .list _ => .isFalse nofun
  | .text _, .symbol _ | .text _, .number _ | .text _, .list _ => .isFalse nofun
  | .number _, .symbol _ | .number _, .text _ | .number _, .list _ => .isFalse nofun
  | .list _, .symbol _ | .list _, .text _ | .list _, .number _ => .isFalse nofun

/-- Equality of lists of forms is decided element by element. -/
def decideEqAll : (as bs : List Form) → Decidable (as = bs)
  | [], [] => .isTrue rfl
  | [], _ :: _ | _ :: _, [] => .isFalse nofun
  | a :: as, b :: bs =>
    match decideEq a b, decideEqAll as bs with
    | .isTrue h, .isTrue hs => .isTrue (by rw [h, hs])
    | .isFalse h, _ => .isFalse fun e => h (by injection e)
    | _, .isFalse hs => .isFalse fun e => hs (by injection e)

end

instance : DecidableEq Form := decideEq

/-! ## Parts -/

/-- The operator's name, if the form is a list with a symbol at its head. -/
def head? : Form → Option String
  | .list (.symbol name :: _) => some name
  | _ => none

/-- What follows the head of a list; nothing if the form is no list. -/
def tail : Form → List Form
  | .list (_ :: rest) => rest
  | _ => []

/-- The name, if the form is a symbol. -/
def symbol? : Form → Option String
  | .symbol name => some name
  | _ => none

/-! ## Symbols -/

/-- The characters besides letters and digits that a symbol may hold. The dot separates the
    segments of a state path. -/
def symbolMarks : List Char := "+-*/<>=!?_$.:".toList

/-- A character that a symbol may hold. -/
def isSymbolChar (c : Char) : Bool := Text.isAlphanumeric c || symbolMarks.contains c

/-- Whether a text begins like a number: with an ASCII digit, perhaps behind a minus sign. -/
def looksNumeric : List Char → Bool
  | '-' :: c :: _ => c.isDigit
  | c :: _ => c.isDigit
  | [] => false

/-- Whether a text is a symbol: it is not empty, does not look like a number, and holds symbol
    characters only. -/
def isSymbol (name : List Char) : Bool :=
  !name.isEmpty && !looksNumeric name && name.all isSymbolChar

/-! ## Writing -/

/-- A character as it is written in a quoted text. -/
def escapeChar (c : Char) : List Char :=
  match c with
  | '"' => ['\\', '"']
  | '\\' => ['\\', '\\']
  | '\n' => ['\\', 'n']
  | '\t' => ['\\', 't']
  | '\r' => ['\\', 'r']
  | _ => [c]

/-- The literal of a text. -/
def textLiteral (content : String) : String :=
  String.ofList ('"' :: (content.toList.flatMap escapeChar ++ ['"']))

mutual

/-- A form as source text. -/
def display : Form → String
  | .symbol name => name
  | .text content => textLiteral content
  | .number value => Integer.toText value
  | .list items => "(" ++ " ".intercalate (displayAll items) ++ ")"

/-- The source texts of several forms. -/
def displayAll : List Form → List String
  | [] => []
  | form :: rest => display form :: displayAll rest

end

end Form

end TurnScript
