import TurnScript.Proofs.Evaluation.Failure
import TurnScript.Proofs.Form.RoundTrip
import TurnScript.Proofs.Program.Check

/-!
# How many levels evaluation needs

A form is evaluated on as many levels as its lists are nested, and on one more. The calls in it
begin on these levels, too (`staysAbove_evalAt`). If all calls name their callee literally, and
every procedure is ranked above the ones that it calls (`Program.RankedBy`), then a call goes
through one statement for each rank at most, so it takes no more levels than these statements have
together (`staysAbove_callAt`). A program of this kind does not recur, and it cannot reach a depth
limit that leaves it so much room.
-/

namespace TurnScript

/-! ## Errors of the depth limit -/

namespace Error

/-- The error of going below the last level. -/
def IsTooDeep : Error → Prop
  | evaluation (.depthExceeded _) _ => True
  | _ => False

/-- The error is one of evaluation whose message begins like that of the depth limit. -/
def ReportsDepth (e : Error) : Prop :=
  (∃ cause trail, e = evaluation cause trail) ∧
    ∃ rest, e.message = "EvaluationError: Evaluation depth limit exceeded" ++ rest

theorem message_evaluation (cause : EvaluationFault) (trail : List TrailStep) :
    (evaluation cause trail).message =
      "EvaluationError: " ++ cause.message ++ String.join (trail.map TrailStep.message) :=
  rfl

/-- The other error of evaluation has another message, whatever its trail is. -/
theorem isTooDeep_of_reportsDepth {e : Error} (h : e.ReportsDepth) : e.IsTooDeep := by
  obtain ⟨⟨cause, trail, rfl⟩, rest, hmessage⟩ := h
  rw [message_evaluation] at hmessage
  cases cause with
  | depthExceeded limit => exact True.intro
  | emptyList =>
    change "EvaluationError: " ++ "Cannot evaluate empty list" ++ _ = _ at hmessage
    -- the first letter of the cause is another one
    have hletter := congrArg (fun s => s.toList[17]?) hmessage
    simp [-String.toList_join] at hletter

/-- No operation on values, scopes and the store is about levels. -/
theorem not_isTooDeep_of_isOperational {e : Error} (h : e.IsOperational) : ¬e.IsTooDeep := by
  cases e with
  | evaluation cause trail =>
    cases cause with
    | depthExceeded limit => exact fun _ => h
    | emptyList => exact id
  | _ => exact id

theorem not_isTooDeep_within (step : TrailStep) {e : Error} (h : ¬e.IsTooDeep) :
    ¬(e.within step).IsTooDeep := by
  cases e with
  | evaluation cause trail => cases cause <;> exact h
  | _ => exact h

end Error

/-- The run does not fail because it went below the last level. -/
def Run.StaysAbove {α : Type} (m : Run α) : Prop := m.Raises fun e => ¬e.IsTooDeep

/-- Staying above the limit is kept when runs are put together. -/
def Congruence.staysAbove :
    Congruence (fun _ => True) (fun e => ¬e.IsTooDeep) fun _ => True :=
  .raises (fun _ => Error.not_isTooDeep_of_isOperational) fun step _ =>
    Error.not_isTooDeep_within step

/-! ## Calls in forms -/

namespace Form

variable {items : List Form} {form : Form}

theorem nesting_lt_of_mem (h : form ∈ items) : form.nesting < (list items).nesting := by
  rw [nesting, Nat.lt_succ_iff]
  exact nestingIn_le_iff.1 (Nat.le_refl _) form h

/-- What a list evaluates is nested less deeply. -/
theorem nesting_lt_of_isOperand (h : IsOperand items form) :
    form.nesting < (list items).nesting := by
  cases h with
  | argument _ hform => exact nesting_lt_of_mem (List.mem_cons_of_mem _ hform)
  | @expression name bindings body _ hbinding =>
    calc form.nesting < (list [.symbol name, form]).nesting := nesting_lt_of_mem (by simp)
      _ < (list bindings).nesting := nesting_lt_of_mem hbinding
      _ < _ := nesting_lt_of_mem (by simp)
  | body hform => exact nesting_lt_of_mem (by simp [hform])

/-- No form in the form is a call. -/
def IsCallFree (form : Form) : Prop := ∀ f, Contains f form → f.operator ≠ SpecialForm.call.name

instance (form : Form) : Decidable form.IsCallFree :=
  decidable_of_iff (∀ f ∈ form.operatorForms, f.operator ≠ SpecialForm.call.name) (by
    simp only [mem_operatorForms_iff, IsCallFree])

end Form

namespace OperatorForm

/-- If the form is a call of something, then it names the procedure literally. -/
def CallsLiterally (f : OperatorForm) : Prop :=
  f.operator = SpecialForm.call.name → f.arguments ≠ [] → f.target?.isSome

instance (f : OperatorForm) : Decidable f.CallsLiterally :=
  inferInstanceAs (Decidable (f.operator = SpecialForm.call.name → f.arguments ≠ [] → _))

/-- A call that names a procedure literally calls no other. -/
theorem eq_of_mayName {callee : Form} {arguments : List Form} {name target : String}
    (h : target? ⟨SpecialForm.call.name, callee :: arguments⟩ = some target)
    (hname : callee.MayName name) : name = target := by
  rw [target?, if_pos rfl] at h
  cases callee with
  | symbol literal => exact hname.trans (Option.some.inj h)
  | text literal => exact hname.trans (Option.some.inj h)
  | number n => cases h
  | list items => cases h

end OperatorForm

namespace Program

/-- All calls in the program name their callee literally, and a procedure has a greater rank than
    those that it calls. -/
structure RankedBy (program : Program) (rank : String → Nat) : Prop where
  literal : ∀ caller f, program.HasForm caller f → f.CallsLiterally
  descends : ∀ caller f callee, program.HasForm caller f → f.target? = some callee →
    program.defines callee → rank callee < rank caller

/-- The procedures and their operator forms can be gone through. -/
instance (program : Program) (rank : String → Nat) : Decidable (program.RankedBy rank) :=
  decidable_of_iff (∀ entry ∈ program.procedures, ∀ f ∈ entry.2.operatorForms,
      f.CallsLiterally ∧ ∀ callee ∈ f.target?, program.defines callee → rank callee < rank entry.1)
    ⟨fun h => ⟨fun caller f hform => by
        obtain ⟨p, hp, hf⟩ := hasForm_iff.1 hform
        exact (h (caller, p) hp f hf).1, fun caller f callee hform htarget => by
        obtain ⟨p, hp, hf⟩ := hasForm_iff.1 hform
        exact (h (caller, p) hp f hf).2 callee htarget⟩,
      fun h entry hentry f hf => by
        have hform := hasForm_iff.2 ⟨entry.2, hentry, hf⟩
        exact ⟨h.literal _ f hform, fun callee htarget => h.descends _ f callee hform htarget⟩⟩

/-- The greatest nesting of the statements of a program. -/
def nesting (program : Program) : Nat :=
  Form.nestingIn (program.procedures.flatMap (·.2.body))

theorem nesting_statement_le {program : Program} {name : String} {p : Procedure} {form : Form}
    (hp : program.find? name = some p) (hform : form ∈ p.body) :
    form.nesting ≤ program.nesting :=
  Form.nestingIn_le_iff.1 (Nat.le_refl _) form
    (List.mem_flatMap.2 ⟨(name, p), Keyed.mem_of_find? hp, hform⟩)

/-- What a call in a ranked program calls has a lesser rank. -/
theorem RankedBy.rank_lt {program : Program} {rank : String → Nat} (h : program.RankedBy rank)
    {caller name : String} {callee : Form} {arguments : List Form}
    (hform : program.HasForm caller ⟨SpecialForm.call.name, callee :: arguments⟩)
    (hname : callee.MayName name) (hdefined : program.defines name) : rank name < rank caller := by
  obtain ⟨target, htarget⟩ := Option.isSome_iff_exists.1 (h.literal caller _ hform rfl (by simp))
  obtain rfl := OperatorForm.eq_of_mayName htarget hname
  exact h.descends caller _ _ hform htarget hdefined

end Program

/-! ## Levels -/

namespace Evaluation

open Form

/-- Evaluation stays above the limit if there are levels enough for the nesting of the form, and
    then for any call that the form can make. -/
theorem staysAbove_evalAt {setting : Setting} (needed : Nat) {levels : Nat} {form : Form}
    (hcalls : ∀ callee arguments name,
      Contains ⟨SpecialForm.call.name, callee :: arguments⟩ form → callee.MayName name →
      setting.program.defines name → ∀ levels values, needed < levels →
        (callAt setting levels name values).StaysAbove)
    (h : form.nesting + needed < levels) (scope : Scope) :
    (evalAt setting levels form scope).StaysAbove := by
  let R := Congruence.staysAbove
  induction levels generalizing form scope with
  | zero => exact absurd h (Nat.not_lt_zero _)
  | succ levels ih =>
    change R.Holds (evalAt setting (levels + 1) form scope) (evalAt setting (levels + 1) form scope)
    refine R.evalAt_succ fun items hitems => ?_
    subst hitems
    refine R.applyList (Congruence.evaluatesTexts_evalAt setting levels)
      (fun form hoperand scope => ?_) (fun callee name values hcallee hdefined => ?_)
      (fun _ _ _ _ => True.intro) (fun _ _ _ _ => True.intro) fun _ _ _ => True.intro
    · -- an operand has one level less, and is nested one less at least
      have hless := nesting_lt_of_isOperand hoperand
      exact ih (fun callee arguments name hform =>
        hcalls callee arguments name (.of_isOperand hoperand hform)) (by omega) scope
    · obtain ⟨⟨arguments, rfl⟩, hname⟩ := hcallee
      have hlist : 0 < (list (.symbol SpecialForm.call.name :: callee :: arguments)).nesting :=
        Nat.lt_of_le_of_lt (Nat.zero_le _) (nesting_lt_of_mem List.mem_cons_self)
      exact hcalls callee arguments name .here hname hdefined levels values (by omega)

/-- A call in a ranked program stays above the limit if there are levels enough for a statement and
    a call for every rank. -/
theorem staysAbove_callAt {setting : Setting} {rank : String → Nat}
    (hranked : setting.program.RankedBy rank) {name : String} {levels : Nat}
    (h : (rank name + 1) * (setting.program.nesting + 1) < levels) (arguments : List Value) :
    (callAt setting levels name arguments).StaysAbove := by
  let R := Congruence.staysAbove
  induction hrank : rank name using Nat.strongRecOn generalizing name levels arguments with
  | ind r ih =>
    subst hrank
    cases levels with
    | zero => exact absurd h (Nat.not_lt_zero _)
    | succ levels =>
      rw [Nat.succ_mul] at h
      have hbody : ∀ p, setting.program.find? name = some p → ∀ form ∈ p.body, ∀ scope,
          R.Holds (evalAt setting levels form scope) (evalAt setting levels form scope) := by
        intro p hp form hform scope
        have hnesting := Program.nesting_statement_le hp hform
        refine staysAbove_evalAt (rank name * (setting.program.nesting + 1))
          (fun callee arguments callee' hcontains hname hdefined levels values hlevels => ?_)
          (by omega) scope
        -- the callee has a lesser rank, so the levels that its caller leaves are enough
        have hcaller : setting.program.HasForm name
            ⟨SpecialForm.call.name, callee :: arguments⟩ :=
          ⟨p, Keyed.mem_of_find? hp, form, hform, hcontains⟩
        have hless := hranked.rank_lt hcaller hname hdefined
        have hle := Nat.mul_le_mul_right (setting.program.nesting + 1) (Nat.succ_le_of_lt hless)
        exact ih _ hless (Nat.lt_of_le_of_lt hle hlevels) values rfl
      exact R.callProcedure hbody fun _ => id

/-- In a program whose calls are literal and ranked, a call does not report the depth limit if the
    limit leaves a statement and a call for every rank up to its own. Nor does the evaluation of a
    form without calls if the limit is greater than its nesting, as the default limit is for every
    form that is read by default. -/
theorem not_reportsDepth_of_rank (program : Program) (limit : Nat) :
    (∀ rank, program.RankedBy rank → ∀ name,
      (rank name + 1) * (program.nesting + 1) < limit → ∀ arguments world e,
        ((Setting.call ⟨program, limit⟩ name arguments 0).outcome world).1 = .error e →
          ¬e.ReportsDepth) ∧
      (∀ form, IsCallFree form → form.nesting < limit → ∀ scope world e,
        ((Setting.eval ⟨program, limit⟩ form scope).outcome world).1 = .error e →
          ¬e.ReportsDepth) ∧
      ∀ source forms, readAll {} source = .ok forms → ∀ form ∈ forms, IsCallFree form →
        ∀ scope world e,
          ((Setting.eval { program } form scope).outcome world).1 = .error e →
            ¬e.ReportsDepth := by
  have hfree (limit : Nat) {form : Form} (hform : IsCallFree form) (h : form.nesting < limit)
      (scope : Scope) : (Setting.eval ⟨program, limit⟩ form scope).StaysAbove :=
    staysAbove_evalAt 0 (fun _ _ _ hcontains => absurd rfl (hform _ hcontains)) h scope
  refine ⟨fun rank hranked name h arguments world e he hreports => ?_,
    fun form hform h scope world e he hreports => ?_,
    fun source forms hread form hmem hform scope world e he hreports => ?_⟩
  · have hcall : (Setting.call ⟨program, limit⟩ name arguments 0).StaysAbove :=
      staysAbove_callAt hranked h arguments
    exact hcall world e he (Error.isTooDeep_of_reportsDepth hreports)
  · exact hfree limit hform h scope world e he (Error.isTooDeep_of_reportsDepth hreports)
  · -- what is read by default is nested 128 deep at most
    have hnesting : form.nesting ≤ 128 := (wellFormed_of_readAll hread form hmem).nesting
    exact hfree 256 hform (by omega) scope world e he (Error.isTooDeep_of_reportsDepth hreports)

/-- A procedure that calls another one in a nested list, with a limit of one more than is
    needed. -/
theorem not_reportsDepth_of_two_ranks :
    let program : Program := ⟨[
      ("Ask", ⟨"Ask", ["x"], [.list [.symbol "EQ", .symbol "x", .symbol "y"]]⟩),
      ("Try", ⟨"Try", [], [.list [.symbol "SEQ",
        .list [.symbol "CALL_PROCEDURE", .text "Ask", .number 1]]]⟩)]⟩
    let rank (name : String) : Nat := if name = "Try" then 1 else 0
    let form : Form := .list [.symbol "EQ", .symbol "x", .number 1]
    (program.RankedBy rank ∧ (rank "Try" + 1) * (program.nesting + 1) < 7 ∧
        form.IsCallFree ∧ form.nesting < 7 ∧
        readAll {} ("\n".intercalate ([form].map display)) = .ok [form]) ∧
      (∀ world e, ((Setting.call ⟨program, 7⟩ "Try" [] 0).outcome world).1 = .error e →
        ¬e.ReportsDepth) ∧
      (∀ world e, ((Setting.eval ⟨program, 7⟩ form {}).outcome world).1 = .error e →
        ¬e.ReportsDepth) ∧
      ∀ world e, ((Setting.eval { program } form {}).outcome world).1 = .error e →
        ¬e.ReportsDepth := by
  intro program rank form
  have hranked : program.RankedBy rank := by decide
  have hlimit : (rank "Try" + 1) * (program.nesting + 1) < 7 := by decide
  have hform : form.IsCallFree := by decide
  have hnesting : form.nesting < 7 := by decide
  have hread := @readAll_display {} [form] (by decide)
  obtain ⟨hcall, heval, hdefault⟩ := not_reportsDepth_of_rank program 7
  exact ⟨⟨hranked, hlimit, hform, hnesting, hread⟩, hcall rank hranked "Try" hlimit [],
    heval form hform hnesting {}, hdefault _ _ hread form List.mem_cons_self hform {}⟩

end Evaluation

end TurnScript
