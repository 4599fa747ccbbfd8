import TurnScript.Error
import TurnScript.Json.Reader
import TurnScript.Json.Writer

/-!
# Values as JSON

Every value is a JSON value: the absent one is `null`. The other way, only integers of 64 bits are
numbers, and arrays and objects are converted to a limited depth. `Value.parseJson` reads a value
from JSON text.
-/

namespace TurnScript

namespace Value

mutual

/-- A value as JSON. -/
def toJson : Value → Json
  | .absent => .null
  | .bool b => .bool b
  | .number n => .number (.integer n.toInt)
  | .text s => .string s
  | .list items => .array (toJsonAll items)
  | .map entries => .object (toJsonEntries entries)

/-- The items of a list as JSON. -/
def toJsonAll : List Value → List Json
  | [] => []
  | v :: vs => toJson v :: toJsonAll vs

/-- The entries of a map as JSON. -/
def toJsonEntries : List (String × Value) → List (String × Json)
  | [] => []
  | (k, v) :: rest => (k, toJson v) :: toJsonEntries rest

end

/-! ## From JSON -/

/-- On how many levels a JSON value is converted. -/
def maxJsonDepth : Nat := 128

/-- The error of a JSON value below the last level. -/
def jsonTooDeep : ParseError :=
  { kind := .tooDeeplyNested
    message := "JSON value too deeply nested (max depth: " ++ toString maxJsonDepth ++ ")" }

/-- The error of a number that is no integer of 64 bits. -/
def unsupportedNumber (n : Json.Number) : ParseError :=
  { kind := .unsupported, message := "Number too large or not integer: " ++ n.text }

/-- The integer that a JSON number is. -/
def ofJsonNumber (n : Json.Number) : Except ParseError Value :=
  match n with
  | .integer i =>
    match Integer.ofInt? i with
    | some i => .ok (.number i)
    | none => .error (unsupportedNumber n)
  | .real _ => .error (unsupportedNumber n)

mutual

/-- The value of a JSON value on the level `depth`. -/
def ofJsonAt (depth : Nat) (j : Json) : Except ParseError Value :=
  if maxJsonDepth ≤ depth then .error jsonTooDeep
  else
    match j with
    | .null => .ok .absent
    | .bool b => .ok (.bool b)
    | .number n => ofJsonNumber n
    | .string s => .ok (.text s)
    | .array items => do return .list (← ofJsonAll (depth + 1) items)
    | .object entries => do return .map (← ofJsonEntries (depth + 1) entries)

/-- The values of the items of an array on the level `depth`. -/
def ofJsonAll (depth : Nat) : List Json → Except ParseError (List Value)
  | [] => .ok []
  | j :: rest => do
    let v ← ofJsonAt depth j
    return v :: (← ofJsonAll depth rest)

/-- The values of the entries of an object on the level `depth`. -/
def ofJsonEntries (depth : Nat) :
    List (String × Json) → Except ParseError (List (String × Value))
  | [] => .ok []
  | (k, j) :: rest => do
    let v ← ofJsonAt depth j
    return (k, v) :: (← ofJsonEntries depth rest)

end

/-- The value of a JSON value. -/
def ofJson (j : Json) : Except ParseError Value := ofJsonAt 0 j

/-- The error that a fault in a JSON text is reported as. -/
def jsonFault (source : String) (f : Json.Fault) : ParseError :=
  let cs := source.toList
  .inSource .invalidSyntax ("Invalid JSON: " ++ f.message cs) source (f.offset cs) none

/-- The value that a JSON text writes. -/
def parseJson (source : String) : Except ParseError Value := do
  ofJson (← (Json.Reader.document source.toList).mapError (jsonFault source))

end Value

end TurnScript
