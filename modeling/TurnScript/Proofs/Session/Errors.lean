import TurnScript.Proofs.Evaluation.Coverage
import TurnScript.Proofs.Evaluation.Failure
import TurnScript.Proofs.Session.Turn

/-!
# Errors of sessions

An error tells where it comes from. Loading fails with errors of loading only
(`isLoadError_of_load`). Evaluation looks up no procedure without having made sure that it is
defined, so a run raises neither these nor that a procedure is missing (`Error.IsOfRun`). What is
left is the procedure that a turn was to execute: it alone can be reported missing, and then the
turn has not even begun.

* `errors_classified`: the kinds of error of loading, of turns and of evaluations.
-/

namespace TurnScript

/-- An error that evaluation itself can raise: none of loading, and not that a procedure is
    missing. -/
def Error.IsOfRun (e : Error) : Prop := e.isLoadError = false ∧ ∀ name, e ≠ .procedureNotFound name

namespace Error

theorem isOfRun_of_isOperational (e : Error) (h : e.IsOperational) : e.IsOfRun := by
  refine ⟨?_, ?_⟩
  · cases e <;> first | rfl | exact h.elim
  · rintro name rfl
    exact h

theorem isOfRun_within (step : TrailStep) (e : Error) (h : e.IsOfRun) : (e.within step).IsOfRun := by
  cases e with
  | mismatch cause trail => exact ⟨rfl, nofun⟩
  | evaluation cause trail => exact ⟨rfl, nofun⟩
  | _ => exact h

end Error

/-- Raising the errors of evaluation only is kept when runs are put together. -/
def Congruence.staysInRun : Congruence (fun _ => True) Error.IsOfRun fun _ => True :=
  .raises Error.isOfRun_of_isOperational Error.isOfRun_within

namespace Evaluation

/-- The evaluation of a form raises the errors of evaluation only. -/
theorem raises_isOfRun (setting : Setting) (levels : Nat) (form : Form) (scope : Scope) :
    (evalAt setting levels form scope).Raises Error.IsOfRun :=
  (holds_of_covers Congruence.staysInRun (covers_true setting.program) ⟨rfl, nofun⟩ levels).1
    form scope trivial

end Evaluation

/-! ## Loading -/

theorem Program.isLoadError_of_add {program : Program} {form : Form} {e : Error}
    (h : program.add form = .error e) : e.isLoadError := by
  rw [add] at h
  split at h
  · split at h
    · cases h
      rfl
    · split at h
      · cases h
        rfl
      · cases h
  · cases h

theorem Program.isLoadError_of_foldlM {program : Program} {forms : List Form} {e : Error}
    (h : forms.foldlM add program = .error e) : e.isLoadError := by
  induction forms generalizing program with
  | nil => cases h
  | cons form forms ih =>
    rw [List.foldlM_cons] at h
    cases hadd : program.add form with
    | error e' =>
      rw [hadd] at h
      cases h
      exact isLoadError_of_add hadd
    | ok program' =>
      rw [hadd] at h
      exact ih h

namespace Session

theorem isLoadError_of_load {config : Config} {source : String} {e : Error}
    (h : load config source = .error e) : e.isLoadError := by
  rw [load, loading] at h
  cases hread : Form.readAll config.reading source with
  | error fault =>
    rw [hread] at h
    cases h
    rfl
  | ok forms =>
    simp only [hread] at h
    cases hprogram : Program.ofForms forms with
    | error e' =>
      rw [hprogram] at h
      cases h
      exact Program.isLoadError_of_foldlM hprogram
    | ok program =>
      rw [hprogram] at h
      cases h

/-! ## Turns and evaluations -/

variable (session : Session) (procedure : String) (argument : Value)

/-- A turn of a procedure that is defined raises the errors of evaluation only. -/
theorem raises_turn (h : session.program.defines procedure) :
    (session.turn procedure argument).Raises Error.IsOfRun :=
  session.holds_turn procedure argument Congruence.staysInRun
    (Evaluation.covers_true session.program) ⟨rfl, nofun⟩ (fun hnot => by simp [h] at hnot)
    fun _ _ => trivial

theorem raises_evaluateForms (setting : Setting) (forms : List Form) :
    (evaluateForms setting forms).Raises Error.IsOfRun :=
  holds_evaluateForms Congruence.staysInRun fun form _ => Evaluation.raises_isOfRun setting _ form

/-- A turn whose procedure is not defined fails for this reason, and changes nothing but the output
    and the journal. -/
theorem execute_of_not_defines (h : session.program.defines procedure = false) :
    (session.execute procedure argument).1.2 = .error (.procedureNotFound procedure) ∧
      (session.execute procedure argument).2.store = session.store := by
  rw [Program.defines, Option.isSome_eq_false_iff, Option.isNone_iff_eq_none] at h
  rw [execute, Program.lookUp_of_none h]
  exact ⟨rfl, rfl⟩

/-- A turn whose procedure is defined fails with the errors of evaluation only. -/
theorem isOfRun_of_execute {e : Error} (h : session.program.defines procedure)
    (he : (session.execute procedure argument).1.2 = .error e) : e.IsOfRun := by
  obtain ⟨p, hp⟩ := Option.isSome_iff_exists.1 h
  rw [execute, Program.lookUp_of_some hp] at he
  exact session.raises_turn procedure argument h _ e he

/-- How the answer of a turn of `procedure` tells what went wrong: never that loading did, and that
    a procedure is missing exactly if this one is. Then the store is as it was. -/
structure Classifies (answer : Except Error String × Session) : Prop where
  not_load : ∀ e, answer.1 = .error e → e.isLoadError = false
  missing_iff : ∀ name, answer.1 = .error (.procedureNotFound name) ↔
    session.program.defines procedure = false ∧ name = procedure
  store_eq : session.program.defines procedure = false → answer.2.store = session.store

theorem classifies_invoke : session.Classifies procedure (session.invoke procedure argument) := by
  have hanswer (e : Error) : (session.invoke procedure argument).1 = .error e ↔
      (session.execute procedure argument).1.2 = .error e := by
    rw [invoke_fst]
    cases (session.execute procedure argument).1.2 <;> simp [Except.map]
  cases hdefined : session.program.defines procedure with
  | true =>
    have hrun (e : Error) (he : (session.invoke procedure argument).1 = .error e) : e.IsOfRun :=
      session.isOfRun_of_execute procedure argument hdefined ((hanswer e).1 he)
    refine ⟨fun e he => (hrun e he).1, fun name => ⟨fun he => ?_, ?_⟩, ?_⟩
    · exact absurd rfl ((hrun _ he).2 name)
    · simp [hdefined]
    · simp [hdefined]
  | false =>
    obtain ⟨hmissing, hstore⟩ := session.execute_of_not_defines procedure argument hdefined
    refine ⟨fun e he => ?_, fun name => ?_, fun _ => ?_⟩
    · rw [hanswer, hmissing] at he
      cases he
      rfl
    · rw [hanswer, hmissing]
      simp [hdefined, eq_comm]
    · have htake := session.take_eq (.invoke procedure argument)
      rw [take, Turn.procedure, Turn.argument, hmissing] at htake
      rw [htake]
      exact hstore

/-- An evaluation fails with an error of loading exactly if its text cannot be read, and never
    because a procedure is missing. -/
theorem isLoadError_of_evaluate {source : String} {e : Error}
    (h : (session.evaluate source).1 = .error e) :
    (e.isLoadError ↔ ∃ fault, Form.readAll session.config.reading source = .error fault) ∧
      ∀ name, e ≠ .procedureNotFound name := by
  rw [evaluate] at h
  cases hread : Form.readAll session.config.reading source with
  | error fault =>
    rw [hread] at h
    cases h
    exact ⟨iff_of_true rfl ⟨fault, rfl⟩, nofun⟩
  | ok forms =>
    rw [hread] at h
    obtain ⟨hload, hmissing⟩ := raises_evaluateForms session.setting forms _ e h
    exact ⟨iff_of_false (by simp [hload]) nofun, hmissing⟩

/-- A session is not loaded because of an error of loading, and no turn of a session fails with one.
    A turn reports a missing procedure exactly if the procedure that it was to execute is not
    defined, and then it leaves the store as it was: what is called inside procedures is never
    reported. An evaluation fails with an error of loading exactly if its text cannot be read, and
    never because a procedure is missing. -/
theorem errors_classified :
    (∀ config source e, load config source = .error e → e.isLoadError) ∧
      ∀ session : Session,
        session.Classifies initProcedure session.init ∧
        (∀ procedure argument,
          session.Classifies procedure (session.invoke procedure argument)) ∧
        (∀ command arguments,
          session.Classifies dispatchProcedure (session.dispatch command arguments)) ∧
        ∀ source e, (session.evaluate source).1 = .error e →
          (e.isLoadError ↔ ∃ fault, Form.readAll session.config.reading source = .error fault) ∧
            ∀ name, e ≠ .procedureNotFound name :=
  ⟨fun _ _ _ => isLoadError_of_load, fun session =>
    ⟨session.classifies_invoke _ _, session.classifies_invoke,
      fun _ _ => session.classifies_invoke _ _, fun _ _ => session.isLoadError_of_evaluate⟩⟩

/-- A session with a procedure that calls a missing one, by a name that it computes, and then
    fails. -/
def calling : Session where
  config := {}
  program := ⟨[("Call", ⟨"Call", [], [.list [.symbol "CALL_PROCEDURE",
    .list [.symbol "STRING_CONCAT", .text "No", .text "body"]], .list []]⟩)]⟩

/-- A definition without a name, a call that is passed over, a procedure that is missing, and forms
    that cannot be evaluated or not even be read. -/
theorem errors_classified_calling :
    (∃ e, load {} "(DEFINE_PROCEDURE)" = .error e ∧ e.isLoadError) ∧
      (∃ e, (calling.invoke "Call" .absent).1 = .error e ∧ e.isLoadError = false ∧
        ∀ name, e ≠ .procedureNotFound name) ∧
      ((calling.invoke "Nobody" .absent).1 = .error (.procedureNotFound "Nobody") ∧
        (calling.invoke "Nobody" .absent).2.store = calling.store) ∧
      (∃ e, (calling.evaluate "()").1 = .error e ∧ e.isLoadError = false) ∧
      ∃ e, (calling.evaluate "(").1 = .error e ∧ e.isLoadError := by
  obtain ⟨hload, hsession⟩ := errors_classified
  obtain ⟨-, hinvoke, -, hevaluate⟩ := hsession calling
  have hdefined : calling.program.defines "Call" = true := by decide
  have hmissing : calling.program.defines "Nobody" = false := by decide
  refine ⟨?_, ?_, ⟨?_, ?_⟩, ?_, ?_⟩
  · obtain ⟨e, he⟩ : ∃ e, load {} "(DEFINE_PROCEDURE)" = .error e :=
      exists_eq_error_of_toOption (by decide +kernel)
    exact ⟨e, he, hload _ _ e he⟩
  · obtain ⟨e, he⟩ : ∃ e, (calling.invoke "Call" .absent).1 = .error e :=
      exists_eq_error_of_toOption (by decide)
    have hcall := hinvoke "Call" .absent
    refine ⟨e, he, hcall.not_load e he, ?_⟩
    rintro name rfl
    have hnot := ((hcall.missing_iff name).1 he).1
    rw [hdefined] at hnot
    cases hnot
  · exact ((hinvoke "Nobody" .absent).missing_iff "Nobody").2 ⟨hmissing, rfl⟩
  · exact (hinvoke "Nobody" .absent).store_eq hmissing
  · obtain ⟨e, he⟩ : ∃ e, (calling.evaluate "()").1 = .error e :=
      exists_eq_error_of_toOption (by decide +kernel)
    have hread : (Form.readAll calling.config.reading "()").toOption.isSome := by decide +kernel
    refine ⟨e, he, Bool.eq_false_iff.2 fun hloading => ?_⟩
    obtain ⟨fault, hfault⟩ := (hevaluate "()" e he).1.1 hloading
    rw [hfault] at hread
    cases hread
  · obtain ⟨fault, hfault⟩ : ∃ fault, Form.readAll calling.config.reading "(" = .error fault :=
      exists_eq_error_of_toOption (by decide +kernel)
    obtain ⟨e, he⟩ : ∃ e, (calling.evaluate "(").1 = .error e :=
      exists_eq_error_of_toOption (by decide +kernel)
    exact ⟨e, he, (hevaluate "(" e he).1.2 ⟨fault, hfault⟩⟩

end Session

end TurnScript
