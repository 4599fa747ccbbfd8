import TurnScript.Proofs.Evaluation.Congruence

/-!
# The depth limit

The limit does nothing but cut evaluation off: where evaluation does not end with a failed
evaluation, it ends in the same way under every greater limit (`extends_of_limit_le`), with the
same result and in the same world. The relation between the two runs, `Extends`, is a congruence,
since no operation catches an error.
-/

namespace TurnScript

/-- The outcome is an error of evaluation itself, such as that of going too deep. -/
def EndsUnevaluated {α : Type} (r : Except Error α) : Prop :=
  ∃ cause trail, r = .error (.evaluation cause trail)

/-- A step on the trail makes an error of evaluation no other kind of error. -/
theorem EndsUnevaluated.within {α : Type} {r : Except Error α} (h : EndsUnevaluated r)
    (step : TrailStep) : EndsUnevaluated (r.mapError (Error.within step)) := by
  obtain ⟨cause, trail, rfl⟩ := h
  exact ⟨cause, trail ++ [step], rfl⟩

/-- The run `m'` ends as `m` does, in every world in which `m` does not end unevaluated. -/
def Run.Extends {α : Type} (m m' : Run α) : Prop :=
  ∀ w, ¬EndsUnevaluated (m.outcome w).1 → m'.outcome w = m.outcome w

namespace Run.Extends

variable {α β : Type}

theorem refl (m : Run α) : m.Extends m := fun _ _ => rfl

/-- A run that always ends unevaluated is extended by every run. -/
theorem of_throw (cause : EvaluationFault) (trail : List TrailStep) (m : Run α) :
    (throw (.evaluation cause trail) : Run α).Extends m :=
  fun _ h => absurd ⟨cause, trail, rfl⟩ h

theorem bind {m m' : Run α} {f f' : α → Run β} (hm : m.Extends m')
    (hf : ∀ a, m.Yields a → (f a).Extends (f' a)) : (m >>= f).Extends (m' >>= f') := by
  intro w h
  cases hr : m.outcome w with
  | mk r w₁ =>
    cases r with
    | error e =>
      rw [Run.outcome_bind_error hr] at h ⊢
      have hm' := hm w (by simpa [hr, EndsUnevaluated] using h)
      exact Run.outcome_bind_error (hm'.trans hr) f'
    | ok a =>
      -- a result ends `m` in the same world under both, and `f` goes on from there
      rw [Run.outcome_bind_ok hr] at h ⊢
      have hm' := hm w (by simp [hr, EndsUnevaluated])
      rw [Run.outcome_bind_ok (hm'.trans hr)]
      exact hf a ⟨w, w₁, hr⟩ w₁ h

theorem within (step : TrailStep) {m m' : Run α} (hm : m.Extends m') :
    (Run.within step m).Extends (Run.within step m') := by
  intro w h
  rw [Run.outcome_within] at h ⊢
  have hm' := hm w fun hended => h (hended.within step)
  rw [Run.outcome_within, hm']

end Run.Extends

/-- Ending alike unless unevaluated is kept when runs are put together. -/
def Congruence.extends : Congruence (fun _ => True) (fun _ => True) (fun _ => True) where
  Holds := Run.Extends
  acknowledged _ _ _ := trivial
  calling _ _ := trivial
  operational _ _ := trivial
  pure _ := .refl _
  throw _ := .refl _
  bind := .bind
  within := .within
  reading _ := .refl _
  lastFlushed h := .bind (.refl _) fun _ _ => .bind h fun _ _ => .refl _
  log _ := .refl _
  emit _ := .refl _
  flush := .refl _
  write _ _ := .refl _

namespace Evaluation

variable (program : Program) (limit more : Nat)

/-- With more levels below the same ones, evaluation and calls end as they did. -/
theorem extends_add (levels : Nat) (h : levels ≤ limit) :
    (∀ form scope, (evalAt ⟨program, limit⟩ levels form scope).Extends
        (evalAt ⟨program, limit + more⟩ (levels + more) form scope)) ∧
      ∀ name arguments, (callAt ⟨program, limit⟩ levels name arguments).Extends
        (callAt ⟨program, limit + more⟩ (levels + more) name arguments) := by
  induction levels with
  | zero => exact ⟨fun _ _ => .of_throw _ _ _, fun _ _ => .of_throw _ _ _⟩
  | succ levels ih =>
    obtain ⟨heval, hcall⟩ := ih (Nat.le_of_succ_le h)
    rw [Nat.succ_add]
    refine ⟨fun form scope => ?_, fun name arguments => ?_⟩
    · exact Congruence.extends.evalAt_succ fun items _ =>
        Congruence.extends.applyList (Congruence.evaluatesTexts_evalAt _ _)
          (fun form _ scope => heval form scope) (fun _ name values _ _ => hcall name values)
          (fun _ _ _ _ => trivial) (fun _ _ _ _ => trivial) fun _ _ _ => trivial
    · -- both count the same level for the call
      have hdepth : limit + more - (levels + more + 1) = limit - (levels + 1) := by omega
      simp only [callAt, hdepth]
      exact Congruence.extends.callProcedure (fun _ _ form _ scope => heval form scope)
        fun _ => trivial

end Evaluation

/-- The value of a form on the level `depth`. -/
def Setting.evalOn (setting : Setting) (form : Form) (scope : Scope) (depth : Nat) : Run Value :=
  Evaluation.evalAt setting (setting.levelsAt depth) form scope

namespace Evaluation

theorem extends_of_limit_le (program : Program) {limit limit' : Nat} (h : limit ≤ limit')
    (depth : Nat) :
    (∀ form scope, (Setting.evalOn ⟨program, limit⟩ form scope depth).Extends
        (Setting.evalOn ⟨program, limit'⟩ form scope depth)) ∧
      ∀ name arguments, (Setting.call ⟨program, limit⟩ name arguments depth).Extends
        (Setting.call ⟨program, limit'⟩ name arguments depth) := by
  obtain ⟨more, rfl⟩ := Nat.exists_eq_add_of_le h
  simp only [Setting.evalOn, Setting.call, Setting.levelsAt]
  by_cases hdepth : depth ≤ limit
  · rw [Nat.sub_add_comm hdepth]
    exact extends_add program limit more (limit - depth) (Nat.sub_le _ _)
  · -- no level is left under the smaller limit
    rw [Nat.sub_eq_zero_of_le (Nat.le_of_not_le hdepth)]
    exact ⟨fun _ _ => .of_throw _ _ _, fun _ _ => .of_throw _ _ _⟩

/-- Evaluation of a form, and the call of a procedure, that do not end unevaluated under one limit
    end with the same result and in the same world under every greater one. -/
theorem outcome_eq_of_limit_le (program : Program) {limit limit' : Nat} (h : limit ≤ limit')
    (depth : Nat) (world world' : World) (r : Except Error Value) (hr : ¬EndsUnevaluated r) :
    (∀ form scope, (Setting.evalOn ⟨program, limit⟩ form scope depth).outcome world = (r, world') →
        (Setting.evalOn ⟨program, limit'⟩ form scope depth).outcome world = (r, world')) ∧
      ∀ name arguments,
        (Setting.call ⟨program, limit⟩ name arguments depth).outcome world = (r, world') →
        (Setting.call ⟨program, limit'⟩ name arguments depth).outcome world = (r, world') := by
  obtain ⟨heval, hcall⟩ := extends_of_limit_le program h depth
  refine ⟨fun form scope hout => ?_, fun name arguments hout => ?_⟩
  · rw [heval form scope world (by rw [hout]; exact hr), hout]
  · rw [hcall name arguments world (by rw [hout]; exact hr), hout]

/-- A procedure that puts out its argument needs three levels. -/
theorem outcome_eq_of_three_levels :
    let program : Program := ⟨[("Say", ⟨"Say", ["x"],
      [.list [.symbol "OUTPUT_TO_USER_BUFFER", .text "A", .symbol "x"]]⟩)]⟩
    (3 ≤ 256 ∧ ¬EndsUnevaluated (.ok .absent : Except Error Value)) ∧
      (Setting.call ⟨program, 256⟩ "Say" [.text "Hi"] 0).outcome {} =
        (.ok .absent, {
          output := ⟨#[⟨"A", "Hi"⟩]⟩
          journal := #[.log (.calling "Say" 0), .output ⟨"A", "Hi"⟩] }) := by
  have hended : ¬EndsUnevaluated (.ok .absent : Except Error Value) := nofun
  exact ⟨⟨by decide, hended⟩,
    (outcome_eq_of_limit_le _ (by decide : 3 ≤ 256) 0 {} _ _ hended).2 "Say" [.text "Hi"] rfl⟩

end Evaluation

end TurnScript
