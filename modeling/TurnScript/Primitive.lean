import TurnScript.Arity

/-!
# Primitives

The operators that a program can use. A special form is given its arguments unevaluated and decides
what becomes of them; a function is given values. The two that work on a state path take a bare
symbol in front for the path itself.
-/

namespace TurnScript

/-- The operators that decide what is evaluated. -/
inductive SpecialForm
  /-- One form after the other. -/
  | sequence
  /-- One of two branches. -/
  | choice
  /-- Forms under local bindings. -/
  | binding
  /-- The call of a procedure. -/
  | call
  deriving DecidableEq, Repr

/-- The operators on values. -/
inductive Function
  | setState
  | getState
  | mapGetValue
  | listGetItem
  | output
  | flush
  | acknowledge
  | concat
  | equal
  deriving DecidableEq, Repr

/-- The operators of the language. -/
inductive Primitive
  | special (form : SpecialForm)
  | function (function : Function)
  deriving DecidableEq, Repr

/-- The name by which programs call a special form. -/
def SpecialForm.name : SpecialForm → String
  | sequence => "SEQ"
  | choice => "IF"
  | binding => "LET"
  | call => "CALL_PROCEDURE"

/-- The arguments that a special form takes. -/
def SpecialForm.arity : SpecialForm → Arity
  | sequence => .any
  | choice => .between 2 3
  | binding => .atLeast 1
  | call => .atLeast 1

namespace Function

/-- The name by which programs call a function. -/
def name : Function → String
  | setState => "SET_STATE"
  | getState => "GET_STATE"
  | mapGetValue => "MAP_GET_VALUE"
  | listGetItem => "LIST_GET_ITEM"
  | output => "OUTPUT_TO_USER_BUFFER"
  | flush => "FLUSH_USER_OUTPUT_BUFFER"
  | acknowledge => "ACKNOWLEDGE_AND_LOG"
  | concat => "STRING_CONCAT"
  | equal => "EQ"

/-- The arguments that a function takes. -/
def arity : Function → Arity
  | setState => .exactly 2
  | getState => .exactly 1
  | mapGetValue => .between 1 2
  | listGetItem => .exactly 2
  | output => .between 2 3
  | flush => .exactly 0
  | acknowledge => .between 3 4
  | concat => .any
  | equal => .exactly 2

/-- Whether a bare symbol in front is the state path itself. -/
def takesPath : Function → Bool
  | setState | getState => true
  | _ => false

end Function

namespace Primitive

/-- The name by which programs call an operator. -/
def name : Primitive → String
  | special form => form.name
  | function f => f.name

/-- The arguments that an operator takes. -/
def arity : Primitive → Arity
  | special form => form.arity
  | function f => f.arity

/-- Whether the operator is given its arguments unevaluated. -/
def isSpecialForm : Primitive → Bool
  | special _ => true
  | function _ => false

/-- Whether a bare symbol in front is a state path. -/
def takesPath : Primitive → Bool
  | special _ => false
  | function f => f.takesPath

/-- Every operator: control flow, then state, output, text and comparison. -/
def all : List Primitive :=
  [special .sequence, special .choice, special .binding, special .call,
    function .setState, function .getState, function .mapGetValue, function .listGetItem,
    function .output, function .flush, function .acknowledge,
    function .concat, function .equal]

/-- The operator of that name. -/
def ofName? (name : String) : Option Primitive := all.find? (·.name == name)

theorem mem_all (p : Primitive) : p ∈ all := by
  rcases p with f | f <;> cases f <;> decide

end Primitive

end TurnScript
