import TurnScript.Form
import TurnScript.Token

/-!
# Reading forms

Tokens become forms. A word is a number if it writes one, and else has to be a symbol; a list
reaches from its opening parenthesis to the matching closing one. The first fault in the order of
the text is reported, except that a fault in a token comes before every fault of structure.

`Form.ofTokens` reads the elements of a list, or the forms of a whole text, and returns the tokens
behind the closing parenthesis, which are never more than it was given.
-/

namespace TurnScript

/-- How a source text is read. -/
structure ReadOptions where
  /-- Whether two semicolons open a comment. -/
  comments : Bool := true
  /-- How many lists may be open at once. -/
  maxDepth : Nat := 128
  deriving DecidableEq, Repr

namespace Form

/-- The number or symbol that a word is. -/
def ofWord (word : String) : Except SourceFault Form :=
  match Integer.ofText? word with
  | some n => .ok (.number n)
  | none =>
    if looksNumeric word.toList then .error (.badNumber word)
    else if isSymbol word.toList then .ok (.symbol word)
    else .error (.badSymbol word)

/-- The tokens that reading leaves over. -/
abbrev Rest (tokens : List Token) := { rest : List Token // rest.length ≤ tokens.length }

/-- Reads forms up to the parenthesis that closes the list opened at `opened?`, or up to the end of
    the text where no list is open; `depth` lists are open. -/
def ofTokens (maxDepth depth : Nat) (opened? : Option Nat) (tokens : List Token) :
    Except LocatedFault (List Form × Rest tokens) :=
  match tokens with
  | [] =>
    match opened? with
    | none => .ok ([], ⟨[], Nat.le_refl _⟩)
    | some opened => .error ⟨.unclosedList, opened⟩
  | ⟨.closing, offset⟩ :: rest =>
    match opened? with
    | none => .error ⟨.strayClosing, offset⟩
    | some _ => .ok ([], ⟨rest, Nat.le_succ _⟩)
  | ⟨.opening, offset⟩ :: rest =>
    if depth < maxDepth then do
      let (items, ⟨behind, h⟩) ← ofTokens maxDepth (depth + 1) (some offset) rest
      let (forms, ⟨left, h'⟩) ← ofTokens maxDepth depth opened? behind
      return (.list items :: forms, ⟨left, Nat.le_succ_of_le (Nat.le_trans h' h)⟩)
    else .error ⟨.tooDeeplyNested maxDepth, offset⟩
  | ⟨.text content, _⟩ :: rest => do
    let (forms, ⟨left, h⟩) ← ofTokens maxDepth depth opened? rest
    return (.text content :: forms, ⟨left, Nat.le_succ_of_le h⟩)
  | ⟨.word letters, offset⟩ :: rest =>
    match ofWord letters with
    | .error fault => .error ⟨fault, offset⟩
    | .ok form => do
      let (forms, ⟨left, h⟩) ← ofTokens maxDepth depth opened? rest
      return (form :: forms, ⟨left, Nat.le_succ_of_le h⟩)
termination_by tokens.length
decreasing_by all_goals simp only [List.length_cons]; omega

/-- The forms of a source text, or the place and cause of its first fault. -/
def scanAll (options : ReadOptions) (source : String) : Except LocatedFault (List Form) := do
  let tokens ← Token.scan options.comments source
  let (forms, _) ← ofTokens options.maxDepth 0 none tokens
  return forms

/-- Reads every form of a source text. -/
def readAll (options : ReadOptions) (source : String) : Except ParseError (List Form) :=
  (scanAll options source).mapError (·.toParseError source)

/-- Reads a source text of exactly one form. -/
def readOne (options : ReadOptions) (source : String) : Except ParseError Form := do
  match ← readAll options source with
  | [form] => return form
  | [] => throw (LocatedFault.toParseError source ⟨.noForm, source.utf8ByteSize⟩)
  | forms => throw (LocatedFault.toParseError source ⟨.manyForms forms.length, 0⟩)

end Form

end TurnScript
