import TurnScript.Integer
import TurnScript.Keyed
import TurnScript.Text.Blank
import TurnScript.Text.Quoted

/-!
# Values

What programs compute with: nothing at all, booleans, integers, texts, lists and maps from texts.
The entries of a map are in the order of their keys.

Two equalities are in use. The structural one is Lean's. `looselyEquals` also takes a number and a
text for equal when the text, without the blanks around it, writes that number; it looks into lists
and maps, which have to agree in length and in their keys.
-/

namespace TurnScript

/-- What a form evaluates to and what the store holds. -/
inductive Value
  /-- No value: the result of what is done for its effect. -/
  | absent
  | bool (b : Bool)
  | number (n : Int64)
  | text (s : String)
  | list (items : List Value)
  /-- A map, as its entries in the order of their keys. -/
  | map (entries : List (String × Value))
  deriving Inhabited

namespace Value

mutual

/-- Equality of values is decided along their structure. -/
def decideEq : (a b : Value) → Decidable (a = b)
  | .absent, .absent => .isTrue rfl
  | .bool a, .bool b => decidable_of_iff (a = b) (by simp)
  | .number a, .number b => decidable_of_iff (a = b) (by simp)
  | .text a, .text b => decidable_of_iff (a = b) (by simp)
  | .list as, .list bs =>
    match decideEqAll as bs with
    | .isTrue h => .isTrue (by rw [h])
    | .isFalse h => .isFalse fun e => h (by injection e)
  | .map as, .map bs =>
    match decideEqEntries as bs with
    | .isTrue h => .isTrue (by rw [h])
    | .isFalse h => .isFalse fun e => h (by injection e)
  | .absent, .bool _ | .absent, .number _ | .absent, .text _ | .absent, .list _
  | .absent, .map _ => .isFalse nofun
  | .bool _, .absent | .bool _, .number _ | .bool _, .text _ | .bool _, .list _
  | .bool _, .map _ => .isFalse nofun
  | .number _, .absent | .number _, .bool _ | .number _, .text _ | .number _, .list _
  | .number _, .map _ => .isFalse nofun
  | .text _, .absent | .text _, .bool _ | .text _, .number _ | .text _, .list _
  | .text _, .map _ => .isFalse nofun
  | .list _, .absent | .list _, .bool _ | .list _, .number _ | .list _, .text _
  | .list _, .map _ => .isFalse nofun
  | .map _, .absent | .map _, .bool _ | .map _, .number _ | .map _, .text _
  | .map _, .list _ => .isFalse nofun

/-- Equality of lists of values is decided element by element. -/
def decideEqAll : (as bs : List Value) → Decidable (as = bs)
  | [], [] => .isTrue rfl
  | [], _ :: _ | _ :: _, [] => .isFalse nofun
  | a :: as, b :: bs =>
    match decideEq a b, decideEqAll as bs with
    | .isTrue h, .isTrue hs => .isTrue (by rw [h, hs])
    | .isFalse h, _ => .isFalse fun e => h (by injection e)
    | _, .isFalse hs => .isFalse fun e => hs (by injection e)

/-- Equality of maps is decided entry by entry. -/
def decideEqEntries : (as bs : List (String × Value)) → Decidable (as = bs)
  | [], [] => .isTrue rfl
  | [], _ :: _ | _ :: _, [] => .isFalse nofun
  | (k, a) :: as, (l, b) :: bs =>
    if hk : k = l then
      match decideEq a b, decideEqEntries as bs with
      | .isTrue h, .isTrue hs => .isTrue (by rw [hk, h, hs])
      | .isFalse h, _ => .isFalse fun e => h (by simp_all)
      | _, .isFalse hs => .isFalse fun e => hs (by simp_all)
    else .isFalse fun e => hk (by simp_all)

end

instance : DecidableEq Value := decideEq

/-! ## Kinds -/

/-- What a value is, without what it holds. -/
inductive Kind
  | absent
  | boolean
  | number
  | string
  | list
  | map
  deriving DecidableEq, Repr

/-- The kind as messages call it. -/
def Kind.name : Kind → String
  | .absent => "absent"
  | .boolean => "boolean"
  | .number => "number"
  | .string => "string"
  | .list => "list"
  | .map => "map"

/-- The kind of a value. -/
def kind : Value → Kind
  | absent => .absent
  | bool _ => .boolean
  | number _ => .number
  | text _ => .string
  | list _ => .list
  | map _ => .map

/-- Whether there is no value. -/
def isAbsent : Value → Bool
  | absent => true
  | _ => false

/-- Whether a condition with this value holds: it is there, and it is neither false, zero nor
    empty. -/
def isTruthy : Value → Bool
  | absent => false
  | bool b => b
  | number n => n != 0
  | text s => !s.isEmpty
  | list items => !items.isEmpty
  | map entries => !entries.isEmpty

/-! ## Commands -/

/-- The map of a command: its name under `command` and its arguments under `args`. -/
def command (name : String) (args : List String) : Value :=
  map (Keyed.ofEntries [("command", text name), ("args", list (args.map text))])

/-! ## Loose equality -/

mutual

/-- Equality up to the text of numbers. -/
def looselyEquals : Value → Value → Bool
  | .absent, .absent => true
  | .bool a, .bool b => a == b
  | .number a, .number b => a == b
  | .text a, .text b => a == b
  | .number n, .text s => Integer.ofText? (Text.trim s) == some n
  | .text s, .number n => Integer.ofText? (Text.trim s) == some n
  | .list as, .list bs => looselyEqualsAll as bs
  | .map as, .map bs => looselyEqualsEntries as bs
  | _, _ => false

/-- Loose equality of two lists of one length, element by element. -/
def looselyEqualsAll : List Value → List Value → Bool
  | [], [] => true
  | a :: as, b :: bs => looselyEquals a b && looselyEqualsAll as bs
  | _, _ => false

/-- Loose equality of two maps of one size, entry by entry, under equal keys. -/
def looselyEqualsEntries : List (String × Value) → List (String × Value) → Bool
  | [], [] => true
  | (k, a) :: as, (l, b) :: bs => k == l && looselyEquals a b && looselyEqualsEntries as bs
  | _, _ => false

end

/-! ## Writing -/

/-- The word for a boolean. -/
def boolWord (b : Bool) : String := if b then "TRUE" else "FALSE"

mutual

/-- A value as it is shown, with its texts quoted. -/
def display : Value → String
  | .absent => "NIL"
  | .bool b => boolWord b
  | .number n => Integer.toText n
  | .text s => Text.quote s
  | .list items => "(" ++ " ".intercalate (displayAll items) ++ ")"
  | .map entries => "\x7b" ++ ", ".intercalate (displayEntries entries) ++ "\x7d"

/-- The texts of several values. -/
def displayAll : List Value → List String
  | [] => []
  | v :: vs => display v :: displayAll vs

/-- The texts of the entries of a map. -/
def displayEntries : List (String × Value) → List String
  | [] => []
  | (k, v) :: rest => (k ++ ": " ++ display v) :: displayEntries rest

end

/-- A single value as plain text, without quotes; none for what has no such text. -/
def plainText? : Value → Option String
  | text s => some s
  | number n => some (Integer.toText n)
  | bool b => some (boolWord b)
  | _ => none

end Value

end TurnScript
