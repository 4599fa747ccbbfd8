import TurnScript.Program
import TurnScript.Proofs.Keyed

/-!
# Programs as they are written

Where a `SEQ` is the only statement of a definition, its parts become the statements of the
procedure. A program as it is written keeps the `SEQ` (`Program.ofFormsAsWritten`). The program of
the same forms is that program with every procedure flattened, and it cannot be made where that one
cannot, for the same reason (`ofForms_eq_flattened`).
-/

namespace TurnScript

namespace Procedure

/-- The procedure with the parts of a `SEQ` that stands alone for its statements. -/
def flattened (p : Procedure) : Procedure := { p with body := statements p.body }

/-- The procedure that a definition with these arguments defines, with its statements as they are
    written. -/
def ofDefinitionAsWritten (arguments : List Form) : Except DefinitionFault Procedure :=
  (ofDefinition arguments).map fun p => { p with body := arguments.drop 2 }

/-- A body is a `SEQ` alone, or its statements are what is written. -/
theorem statements_cases (body : List Form) :
    (∃ parts, body = [.list (.symbol "SEQ" :: parts)] ∧ statements body = parts) ∨
      statements body = body := by
  unfold statements
  split
  · exact .inl ⟨_, rfl, rfl⟩
  · exact .inr rfl

theorem ofDefinition_eq_flattened (arguments : List Form) :
    ofDefinition arguments = (ofDefinitionAsWritten arguments).map flattened := by
  have hbody (p : Procedure) (h : ofDefinition arguments = .ok p) :
      p.body = statements (arguments.drop 2) := by
    unfold ofDefinition at h
    split at h
    case h_1 name forms body =>
      cases hparameters : forms.foldlM (addParameter name) [] with
      | error fault =>
        rw [hparameters] at h
        cases h
      | ok parameters =>
        rw [hparameters] at h
        cases h
        rfl
    -- the other arguments define nothing
    all_goals cases h
  rw [ofDefinitionAsWritten]
  cases h : ofDefinition arguments with
  | error fault => rfl
  | ok p =>
    have hp : p = { p with body := statements (arguments.drop 2) } := by rw [← hbody p h]
    exact congrArg Except.ok hp

end Procedure

namespace Program

/-- The program with all procedures flattened. -/
def flattened (program : Program) : Program :=
  { procedures := program.procedures.map fun e => (e.1, e.2.flattened) }

/-- The program with one more form of its text, as it is written. -/
def addAsWritten (program : Program) (form : Form) : Except Error Program :=
  if isDefinition form then
    match Procedure.ofDefinitionAsWritten form.tail with
    | .error fault => .error (.invalidDefinition fault)
    | .ok p =>
      if program.defines p.name then .error (.duplicateProcedure p.name)
      else .ok { procedures := Keyed.insert p.name p program.procedures }
  else .ok program

/-- The program of the given forms, as it is written. -/
def ofFormsAsWritten (forms : List Form) : Except Error Program := forms.foldlM addAsWritten {}

variable (program : Program)

theorem find?_flattened (name : String) :
    program.flattened.find? name = (program.find? name).map Procedure.flattened :=
  Keyed.find?_map Procedure.flattened name program.procedures

theorem defines_flattened (name : String) :
    program.flattened.defines name = program.defines name := by
  rw [defines, find?_flattened, Option.isSome_map, defines]

theorem add_flattened (form : Form) :
    program.flattened.add form = (program.addAsWritten form).map flattened := by
  unfold add addAsWritten
  rw [Procedure.ofDefinition_eq_flattened]
  split
  · cases Procedure.ofDefinitionAsWritten form.tail with
    | error fault => rfl
    | ok p =>
      have hdefines : program.flattened.defines p.flattened.name = program.defines p.name :=
        program.defines_flattened p.name
      simp only [Except.map, hdefines]
      split
      · rfl
      · have hinsert := Keyed.insert_map Procedure.flattened p.name p program.procedures
        exact congrArg (fun procedures => Except.ok (Program.mk procedures)) hinsert
  · rfl

theorem foldlM_add_flattened (forms : List Form) :
    forms.foldlM add program.flattened = (forms.foldlM addAsWritten program).map flattened := by
  induction forms generalizing program with
  | nil => rfl
  | cons form forms ih =>
    rw [List.foldlM_cons, List.foldlM_cons, add_flattened]
    cases program.addAsWritten form with
    | error e => rfl
    | ok program' => exact ih program'

/-- The program of some forms is the program as it is written, flattened. -/
theorem ofForms_eq_flattened (forms : List Form) :
    ofForms forms = (ofFormsAsWritten forms).map flattened :=
  foldlM_add_flattened {} forms

end Program

end TurnScript
