import TurnScript.Primitive
import TurnScript.Scope
import TurnScript.World

/-!
# The functions

What the operators on values do. Each checks the number of its arguments itself, so that it can be
applied to any list of values.
-/

namespace TurnScript.Function

/-- The value at `path`: that of a binding of this name, else that of the store. -/
def stateAt (path : String) (scope : Scope) : Run Value :=
  match scope.find? path with
  | some v => pure v
  | none => Run.read path

/-- The item of a list at `index`, counted from zero. -/
def itemAt (items : List Value) (index : Int64) : Except Error Value :=
  let item? :=
    match index.toInt with
    | .ofNat i => items[i]?
    | .negSucc _ => none
  match item? with
  | some v => .ok v
  | none => .error (.indexOutOfRange index items.length)

/-- The texts of the arguments of `operation`, which messages count from one. -/
def numberedTexts (operation : String) (arguments : List Value) : Except Error (List String) :=
  (arguments.zipIdx 1).mapM fun (v, i) => v.textFor operation ("argument " ++ toString i)

/-- Logs an acknowledgement and shows `content` to the user under its category. -/
def report (tag message category content : String) : Run Value := do
  Run.log (.acknowledged tag message category)
  Run.emit ⟨category, content⟩
  return .absent

/-- Applies a function to values. -/
def apply (f : Function) (scope : Scope) (arguments : List Value) : Run Value :=
  let wrongCount {α : Type} : Run α := throw (.arity f.name f.arity arguments.length)
  match f, arguments with
  | setState, [path, v] => do
    Run.write (← Run.ofExcept (path.stringFor f.name "path")) v
    return .absent
  | getState, [path] => do stateAt (← Run.ofExcept (path.stringFor f.name "path")) scope
  | mapGetValue, [key] => do
    let key ← Run.ofExcept (key.stringFor f.name "key")
    Run.ofExcept (scope.context.member key)
  | mapGetValue, [m, key] => do
    let key ← Run.ofExcept (key.stringFor f.name "key")
    Run.ofExcept (m.member key)
  | listGetItem, [.list items, index] => Run.ofExcept do itemAt items (← index.asNumber)
  | listGetItem, [v, _] => throw (.mismatch (.argumentNotList f.name v.kind) [])
  -- what follows the message is for the program's reader only
  | output, tag :: message :: _ => do
    let tag ← Run.ofExcept (tag.textFor f.name "the tag")
    let message ← Run.ofExcept (message.textFor f.name "the message")
    Run.emit ⟨tag, message⟩
    return .absent
  | flush, _ => do return .text (← Run.flush)
  | acknowledge, _ => do
    match ← Run.ofExcept (numberedTexts f.name arguments) with
    | [tag, message, category] => report tag message category message
    | [tag, message, category, content] => report tag message category content
    | _ => wrongCount
  | concat, _ => do
    let texts ← Run.ofExcept (arguments.mapM (·.textFor f.name "every argument"))
    return .text (String.join texts)
  | equal, [a, b] => pure (.bool (a.looselyEquals b))
  | setState, _ | getState, _ | mapGetValue, _ | listGetItem, _ | output, _ | equal, _ =>
    wrongCount

end TurnScript.Function
