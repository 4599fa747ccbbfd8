import TurnScript.Json.Reader.Scalar

/-!
# Reading JSON

A reader of standard JSON that goes over the text once. Arrays and objects may be nested to 127
levels; of two entries with one key the later counts. The first fault in the order of the text is
the error.
-/

namespace TurnScript.Json.Reader

/-- The text behind the colon after a key. -/
def colon (cs : List Char) : Read Unit cs :=
  match next? cs with
  | none => .error ⟨.endInObject, [], 1⟩
  | some (c, ⟨rest, h⟩) =>
    if c = ':' then .ok ((), ⟨rest, Nat.le_of_lt h⟩) else .error ⟨.noColon, c :: rest, 1⟩

/-- What separates the items of an array or the entries of an object: whether there are more, and
    the text behind it, where another one begins at once if there are. -/
def separator (closing : Char) (atEnd missing : Cause) (cs : List Char) :
    Except Fault (Bool × { rest : List Char // rest.length < cs.length }) :=
  match next? cs with
  | none => .error ⟨atEnd, [], 1⟩
  | some (c, ⟨rest, h⟩) =>
    if c = closing then .ok (false, ⟨rest, h⟩)
    else if c = ',' then
      match next? rest with
      | none => .error ⟨.endInValue, [], 1⟩
      | some (first, ⟨more, h'⟩) =>
        if first = closing then .error ⟨.trailingComma, first :: more, 1⟩
        else .ok (true, ⟨first :: more, by simp; omega⟩)
    else .error ⟨missing, c :: rest, 1⟩

mutual

/-- A value, with the blanks in front of it; brackets can be opened on `levels - 1` levels. -/
def value (levels : Nat) (cs : List Char) : Read Json cs :=
  match next? cs with
  | none => .error ⟨.endInValue, [], 1⟩
  | some (c, ⟨rest, h⟩) =>
    if c = '[' || c = '\x7b' then
      if levels ≤ 1 then .error ⟨.tooDeep, c :: rest, 1⟩
      else if c = '[' then do
        let (items, ⟨left, h'⟩) ← array (levels - 1) rest
        return (.array items, ⟨left, by omega⟩)
      else do
        let (entries, ⟨left, h'⟩) ← object (levels - 1) rest
        return (.object (Keyed.ofEntries entries), ⟨left, by omega⟩)
    else do
      let (j, ⟨left, h'⟩) ← scalar c rest
      return (j, ⟨left, by omega⟩)
termination_by (cs.length, 0)

/-- The items of an array, read from behind its bracket. -/
def array (levels : Nat) (cs : List Char) : Read (List Json) cs :=
  match next? cs with
  | none => .error ⟨.endInList, [], 1⟩
  | some (c, ⟨rest, h⟩) =>
    if c = ']' then .ok ([], ⟨rest, Nat.le_of_lt h⟩) else items levels cs
termination_by (cs.length, 2)

/-- One item of an array or more. -/
def items (levels : Nat) (cs : List Char) : Read (List Json) cs := do
  let (item, ⟨behind, h⟩) ← value levels cs
  match ← separator ']' .endInList .noListSeparator behind with
  | (false, ⟨rest, h'⟩) => return ([item], ⟨rest, by omega⟩)
  | (true, ⟨rest, h'⟩) =>
    let (more, ⟨left, h''⟩) ← items levels rest
    return (item :: more, ⟨left, by omega⟩)
termination_by (cs.length, 1)

/-- The entries of an object, read from behind its brace. -/
def object (levels : Nat) (cs : List Char) : Read (List (String × Json)) cs :=
  match next? cs with
  | none => .error ⟨.endInObject, [], 1⟩
  | some (c, ⟨rest, h⟩) =>
    if c = '\x7d' then .ok ([], ⟨rest, Nat.le_of_lt h⟩)
    else (entries levels (c :: rest)).map fun (es, ⟨left, hleft⟩) =>
      (es, ⟨left, by simp at hleft; omega⟩)
termination_by (cs.length, 2)
decreasing_by simp [Prod.lex_def]; omega

/-- One entry of an object or more, the first of which begins at once. -/
def entries (levels : Nat) (cs : List Char) : Read (List (String × Json)) cs :=
  match cs with
  | '"' :: rest => do
    let (key, ⟨behindKey, h₁⟩) ← string rest
    let ((), ⟨behindColon, h₂⟩) ← colon behindKey
    let (item, ⟨behind, h₃⟩) ← value levels behindColon
    match ← separator '\x7d' .endInObject .noObjectSeparator behind with
    | (false, ⟨left, h₄⟩) => return ([(key, item)], ⟨left, by simp; omega⟩)
    | (true, ⟨left, h₄⟩) =>
      let (more, ⟨end', h₅⟩) ← entries levels left
      return ((key, item) :: more, ⟨end', by simp; omega⟩)
  | other => .error ⟨.keyNotString, other, 1⟩
termination_by (cs.length, 1)

end

/-- One more than the number of brackets that may be open at once. -/
def maxLevels : Nat := 128

/-- The value that a whole text writes. -/
def document (cs : List Char) : Except Fault Json := do
  let (j, ⟨rest, _⟩) ← value maxLevels cs
  match skipBlanks rest with
  | [] => return j
  | other => throw ⟨.trailingCharacters, other, 1⟩

end TurnScript.Json.Reader
