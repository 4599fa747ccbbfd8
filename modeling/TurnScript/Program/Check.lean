import TurnScript.Journal
import TurnScript.Primitive
import TurnScript.Program

/-!
# Checking a program

What can be said about a program before it runs: which of its operators are no primitives, and
which of the calls that name their procedure literally name none of the program's.

Both look at the *operator forms* of the bodies, the lists with a symbol at the head. The bindings
of a `LET` are not operator forms, but the expressions in them are searched.
-/

namespace TurnScript

/-- A list with a symbol at its head: the symbol and what follows it. -/
structure OperatorForm where
  operator : String
  arguments : List Form
  deriving DecidableEq

namespace Form

mutual

/-- The operator forms in a form, the outer before the inner, from left to right. -/
def operatorForms : Form → List OperatorForm
  | .list (.symbol "LET" :: .list bindings :: body) =>
    ⟨"LET", .list bindings :: body⟩ ::
      (operatorFormsInBindings bindings ++ operatorFormsIn body)
  | .list (.symbol operator :: arguments) => ⟨operator, arguments⟩ :: operatorFormsIn arguments
  | .list items => operatorFormsIn items
  | _ => []

/-- The operator forms in several forms. -/
def operatorFormsIn : List Form → List OperatorForm
  | [] => []
  | form :: rest => operatorForms form ++ operatorFormsIn rest

/-- The operator forms in the expressions of bindings. -/
def operatorFormsInBindings : List Form → List OperatorForm
  | [] => []
  | .list (_ :: expressions) :: rest =>
    operatorFormsIn expressions ++ operatorFormsInBindings rest
  | _ :: rest => operatorFormsInBindings rest

end

end Form

namespace OperatorForm

/-- Whether the operator is a primitive. -/
def isImplemented (f : OperatorForm) : Bool := (Primitive.ofName? f.operator).isSome

/-- The procedure that the form calls by a literal name. -/
def target? (f : OperatorForm) : Option String :=
  if f.operator = SpecialForm.call.name then
    match f.arguments with
    | .symbol name :: _ => some name
    | .text name :: _ => some name
    | _ => none
  else none

end OperatorForm

namespace Procedure

/-- The operator forms of a body. -/
def operatorForms (p : Procedure) : List OperatorForm := Form.operatorFormsIn p.body

end Procedure

namespace Program

/-- The operators of the program that are no primitives, each once, in ascending order. -/
def unknownOperators (program : Program) : List String :=
  let unknown := program.procedures.flatMap fun (_, p) =>
    (p.operatorForms.filter (!·.isImplemented)).map (·.operator)
  Keyed.keys (Keyed.ofEntries (unknown.map fun name => (name, ())))

/-- The literal calls of undefined procedures: caller and target, in the order of the callers'
    names and then of the text. -/
def undefinedTargets (program : Program) : List (String × String) :=
  program.procedures.flatMap fun (caller, p) =>
    ((p.operatorForms.filterMap (·.target?)).filter (!program.defines ·)).map (caller, ·)

/-- What is logged about a program that is loaded. -/
def checkRecords (program : Program) : List LogRecord :=
  program.undefinedTargets.map (fun (caller, target) => .undefinedTarget caller target) ++
    program.unknownOperators.map .unimplementedOperator

end Program

end TurnScript
