import TurnScript.Keyed

/-!
# JSON values

The entries of an object are in the order of their keys. A number is kept as an integer where its
literal is one and fits 64 bits, with or without a sign, and as a float otherwise.
-/

namespace TurnScript

/-- A JSON number. -/
inductive Json.Number
  | integer (n : Int)
  | real (x : Float)

/-- A JSON value. -/
inductive Json
  | null
  | bool (b : Bool)
  | number (n : Json.Number)
  | string (s : String)
  | array (items : List Json)
  | object (entries : List (String × Json))
  deriving Inhabited

end TurnScript
