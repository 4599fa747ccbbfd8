import TurnScript.Error

/-!
# Taking values apart

What an operation expects of a value, and the error when it finds something else.
-/

namespace TurnScript.Value

/-- The plain text of a value. -/
def asText (v : Value) : Except Error String :=
  match v.plainText? with
  | some s => .ok s
  | none => .error (.mismatch (.notText v) [])

/-- The number that a value is. -/
def asNumber : Value → Except Error Int64
  | number n => .ok n
  | v => .error (.mismatch (.notNumber v.kind) [])

/-- The string that a value is. -/
def asString : Value → Except Error String
  | text s => .ok s
  | v => .error (.mismatch (.notString v.kind) [])

/-- What a map holds at `key`. -/
def member (key : String) : Value → Except Error Value
  | map entries =>
    match Keyed.find? key entries with
    | some v => .ok v
    | none => .error (.keyNotFound key)
  | v => .error (.mismatch (.noMapForKey key v.kind) [])

/-- What is reached from a value along several keys, one map after the other. -/
def memberAlong (keys : List String) (v : Value) : Except Error Value :=
  keys.foldlM (fun v key => v.member key) v

/-- The plain text of an operation's argument; `what` names the argument. -/
def textFor (operation what : String) (v : Value) : Except Error String :=
  match v.plainText? with
  | some s => .ok s
  | none => .error (.mismatch (.argumentNotText operation what v) [])

/-- The string that an operation's argument is; `what` names the argument. -/
def stringFor (operation what : String) : Value → Except Error String
  | text s => .ok s
  | v => .error (.mismatch (.argumentNotString operation what v.kind) [])

end TurnScript.Value
