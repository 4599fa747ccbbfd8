import TurnScript.Primitive.Function
import TurnScript.Program

/-!
# Evaluation

A text or a number is its own value, a symbol is looked up, and a list applies its operator.
Evaluation counts levels: the parts of a list are one level below it, the statements of a procedure
one level below its call, and the call one level below the form that makes it. Below the limit
there is nothing but an error.

`evalAt` and `callAt` are given the number of levels that are left. What happens on one level, the
functions above them, is given the evaluation and the calls of the next level as arguments.
-/

namespace TurnScript

/-- What stays the same during evaluation. -/
structure Setting where
  program : Program
  /-- The number of levels. -/
  depthLimit : Nat := 256

namespace Evaluation

/-- The reserved symbols. -/
def reserved? : String → Option Value
  | "NIL" => some .absent
  | "TRUE" => some (.bool true)
  | "FALSE" => some (.bool false)
  | _ => none

/-- The value of a symbol: a reserved one, a binding, what a dotted name reaches in the map bound
    to its first piece, or what the store holds at the path. -/
def lookUp (name : String) (scope : Scope) (store : Store) : Except Error Value :=
  match reserved? name, scope.find? name with
  | some v, _ => .ok v
  | none, some v => .ok v
  | none, none =>
    match Path.pieces name with
    | head :: key :: keys =>
      match scope.find? head with
      | some v => v.memberAlong (key :: keys)
      | none => store.get name
    | _ => store.get name

/-- An operator that is no primitive is passed over, and the user is told. -/
def passOver (name : String) : Run Value := do
  Run.log (.unknownPrimitive name)
  Run.emit ⟨"WARNING", "Primitive '" ++ name ++ "' not implemented."⟩
  return .absent

section Level

variable (program : Program) (eval : Form → Scope → Run Value)
  (call : String → List Value → Run Value)

/-- The value of the last form, after the others; absent if there is none. -/
def sequence (scope : Scope) (forms : List Form) : Run Value :=
  forms.foldlM (fun _ form => eval form scope) .absent

/-- One branch or the other, which may be missing. -/
def choice (scope : Scope) : List Form → Run Value
  | [condition, whenTrue] => do
    if (← eval condition scope).isTruthy then eval whenTrue scope else return .absent
  | [condition, whenTrue, whenFalse] => do
    if (← eval condition scope).isTruthy then eval whenTrue scope else eval whenFalse scope
  | arguments => throw (.arity SpecialForm.choice.name SpecialForm.choice.arity arguments.length)

/-- The scope with one more binding, evaluated in the scope before it. -/
def bindOne (scope : Scope) : Form → Run Scope
  | .list [.symbol name, expression] => do
    return scope.define name (← eval expression scope)
  | form => throw (.mismatch (.badBinding form) [])

/-- The forms in sequence under the bindings in front. -/
def binding (scope : Scope) : List Form → Run Value
  | .list bindings :: body => do
    let inner ← bindings.foldlM (bindOne eval) scope
    sequence eval inner body
  | form :: _ => throw (.mismatch (.bindingsNotList form) [])
  | [] => throw (.arity SpecialForm.binding.name SpecialForm.binding.arity 0)

/-- The name of the procedure to call: a bare symbol itself, or the string that a form evaluates
    to. -/
def calleeName (scope : Scope) : Form → Run String
  | .symbol name => pure name
  | form => do Run.ofExcept (← eval form scope).asString

/-- A call of an undefined procedure is passed over, and the user and the caller are told. -/
def passOverCall (name : String) (callee : Form) : Run Value := do
  let notice := (Error.procedureNotFound name).message
  Run.log (.undefinedCallee name callee)
  Run.emit ⟨"ERROR", notice⟩
  return .text ("ERROR: " ++ notice)

/-- The call of a procedure with the values of the arguments, which are evaluated only if the
    procedure is defined. -/
def callForm (scope : Scope) : List Form → Run Value
  | callee :: arguments => do
    let name ← calleeName eval scope callee
    if program.defines name then
      let values ← arguments.mapM (eval · scope)
      call name values
    else passOverCall name callee
  | [] => throw (.arity SpecialForm.call.name SpecialForm.call.arity 0)

/-- Applies a special form to unevaluated arguments. -/
def applySpecial (form : SpecialForm) (scope : Scope) (arguments : List Form) : Run Value :=
  match form with
  | .sequence => sequence eval scope arguments
  | .choice => choice eval scope arguments
  | .binding => binding eval scope arguments
  | .call => callForm program eval call scope arguments

/-- The arguments of a function, evaluated from left to right, except a state path that is
    written as a bare symbol. -/
def functionArguments (f : Function) (scope : Scope) (arguments : List Form) :
    Run (List Value) :=
  match f.takesPath, arguments with
  | true, .symbol path :: rest => do
    return .text path :: (← rest.mapM (eval · scope))
  | _, arguments => arguments.mapM (eval · scope)

/-- Applies an operator to unevaluated arguments, the number of which is checked first. -/
def applyPrimitive (p : Primitive) (scope : Scope) (arguments : List Form) : Run Value := do
  Run.ofExcept (p.arity.check p.name arguments.length)
  match p with
  | .special form => applySpecial program eval call form scope arguments
  | .function f => do f.apply scope (← functionArguments eval f scope arguments)

/-- The value of a list with these elements. -/
def applyList (scope : Scope) : List Form → Run Value
  | [] => throw (.evaluation .emptyList [])
  | .symbol name :: arguments =>
    match Primitive.ofName? name with
    | some p => applyPrimitive program eval call p scope arguments
    | none => passOver name
  | head :: _ => throw (.mismatch (.operatorNotSymbol head) [])

/-- Runs the statements of the procedure `name` in the scope of a call. The result is the last
    chunk that was flushed meanwhile. -/
def runBody (name : String) (scope : Scope) (body : List Form) : Run Value := do
  let before ← Run.chunkCount
  body.forM fun statement => do
    discard (Run.within (.executing name) (eval statement scope))
  let chunks := (← get).chunks
  match chunks.back? with
  | some chunk => return if before < chunks.size then .text chunk else .absent
  | none => return .absent

/-- Calls a procedure on the level `depth`. A procedure without parameters takes any arguments,
    the others no more than they have parameters. -/
def callProcedure (depth : Nat) (name : String) (arguments : List Value) : Run Value := do
  let p ← Run.ofExcept (program.lookUp name)
  if !p.parameters.isEmpty && p.parameters.length < arguments.length then
    throw (.arity name (.between 0 p.parameters.length) arguments.length)
  Run.log (.calling name depth)
  runBody eval name (Scope.ofCall p.parameters arguments) p.body

end Level

/-- The error of going below the last level. -/
def tooDeep (setting : Setting) : Error := .evaluation (.depthExceeded setting.depthLimit) []

mutual

/-- The value of a form, with so many levels left. -/
def evalAt (setting : Setting) : (levels : Nat) → Form → Scope → Run Value
  | 0, _, _ => throw (tooDeep setting)
  | _ + 1, .text content, _ => pure (.text content)
  | _ + 1, .number n, _ => pure (.number n)
  | _ + 1, .symbol name, scope => do Run.ofExcept (lookUp name scope (← get).store)
  | levels + 1, .list items, scope =>
    Run.within (.evaluating (.list items)) <|
      applyList setting.program (evalAt setting levels) (callAt setting levels) scope items

/-- The call of a procedure with values, with so many levels left. -/
def callAt (setting : Setting) : (levels : Nat) → String → List Value → Run Value
  | 0, _, _ => throw (tooDeep setting)
  | levels + 1, name, arguments =>
    callProcedure setting.program (evalAt setting levels)
      (setting.depthLimit - (levels + 1)) name arguments

end

end Evaluation

namespace Setting

variable (setting : Setting)

/-- The number of levels left on the level `depth`. -/
def levelsAt (depth : Nat) : Nat := setting.depthLimit - depth

/-- The value of a form on the outermost level. -/
def eval (form : Form) (scope : Scope) : Run Value :=
  Evaluation.evalAt setting (setting.levelsAt 0) form scope

/-- The call of a procedure on the level `depth`. -/
def call (name : String) (arguments : List Value) (depth : Nat) : Run Value :=
  Evaluation.callAt setting (setting.levelsAt depth) name arguments

/-- A special form on the level `depth`. -/
def applySpecial (form : SpecialForm) (scope : Scope) (arguments : List Form) (depth : Nat) :
    Run Value :=
  let inner := setting.levelsAt (depth + 1)
  Evaluation.applySpecial setting.program (Evaluation.evalAt setting inner)
    (Evaluation.callAt setting inner) form scope arguments

end Setting

end TurnScript
