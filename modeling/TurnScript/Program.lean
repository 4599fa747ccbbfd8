import TurnScript.Error

/-!
# Programs

A program is the procedures that a source text defines, each by a form

    (DEFINE_PROCEDURE Name (parameter ...) statement ...)

Other forms are passed over. If the only statement is a `SEQ`, its parts are the statements. The
first form in the order of the text that is no proper definition, or defines a name again, is the
error.
-/

namespace TurnScript

/-- A procedure of a program. -/
structure Procedure where
  name : String
  parameters : List String
  /-- The statements, in the order of execution. -/
  body : List Form
  deriving DecidableEq

namespace Procedure

/-- The head of a definition. -/
def definitionHead : String := "DEFINE_PROCEDURE"

/-- One more parameter behind those before it. -/
def addParameter (name : String) (before : List String) :
    Form → Except DefinitionFault (List String)
  | .symbol p =>
    if p ∈ before then .error (.repeatedParameter name p) else .ok (before ++ [p])
  | form => .error (.badParameter name form)

/-- The statements of a body: a `SEQ` that stands alone is its parts. -/
def statements : List Form → List Form
  | [.list (.symbol "SEQ" :: parts)] => parts
  | forms => forms

/-- The procedure that a definition with these arguments defines. -/
def ofDefinition : List Form → Except DefinitionFault Procedure
  | .symbol name :: .list forms :: body => do
    let parameters ← forms.foldlM (addParameter name) []
    return { name, parameters, body := statements body }
  | .symbol name :: form :: _ => .error (.parametersNotList name form)
  | form :: _ :: _ => .error (.badName form)
  | arguments => .error (.tooShort arguments.length)

end Procedure

/-- The procedures of a program, by name. -/
structure Program where
  procedures : Keyed Procedure := []
  deriving DecidableEq, Inhabited

namespace Program

/-- The procedure of that name. -/
def find? (name : String) (program : Program) : Option Procedure :=
  Keyed.find? name program.procedures

/-- The procedure of that name, or the error that there is none. -/
def lookUp (name : String) (program : Program) : Except Error Procedure :=
  match program.find? name with
  | some p => .ok p
  | none => .error (.procedureNotFound name)

theorem lookUp_of_some {name : String} {program : Program} {p : Procedure}
    (h : program.find? name = some p) : program.lookUp name = .ok p := by
  rw [lookUp, h]

theorem lookUp_of_none {name : String} {program : Program} (h : program.find? name = none) :
    program.lookUp name = .error (.procedureNotFound name) := by
  rw [lookUp, h]

/-- Whether the program defines a procedure of that name. -/
def defines (name : String) (program : Program) : Bool := (program.find? name).isSome

/-- The names of the procedures, in ascending order. -/
def names (program : Program) : List String := Keyed.keys program.procedures

/-- The number of procedures. -/
def size (program : Program) : Nat := program.procedures.length

/-- Whether a form of a program defines a procedure. -/
def isDefinition (form : Form) : Bool := form.head? == some Procedure.definitionHead

/-- The program with one more form of its text. -/
def add (program : Program) (form : Form) : Except Error Program :=
  if isDefinition form then
    match Procedure.ofDefinition form.tail with
    | .error fault => .error (.invalidDefinition fault)
    | .ok p =>
      if program.defines p.name then .error (.duplicateProcedure p.name)
      else .ok { procedures := Keyed.insert p.name p program.procedures }
  else .ok program

/-- The program of the given forms. -/
def ofForms (forms : List Form) : Except Error Program := forms.foldlM add {}

/-- The forms that are passed over when `forms` are added to a program, up to the first error. -/
def skippedFrom (program : Program) : List Form → List Form
  | [] => []
  | form :: rest =>
    match program.add form with
    | .error _ => []
    | .ok program' =>
      if isDefinition form then skippedFrom program' rest
      else form :: skippedFrom program' rest

/-- The forms that make no part of the program. -/
def skipped (forms : List Form) : List Form := skippedFrom {} forms

end Program

end TurnScript
