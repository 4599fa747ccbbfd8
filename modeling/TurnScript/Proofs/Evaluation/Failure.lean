import TurnScript.Proofs.Evaluation.Congruence

/-!
# Errors of runs

Which errors a run can end with (`Run.Raises`), whatever the world is in which it begins. A set of
errors that holds those of the operations, and that a step on the trail does not lead out of, is
kept when runs are put together (`Congruence.raises`). The functions raise no others than those of
the operations (`Function.raises_apply`), so nothing is on the trail of their errors.
-/

namespace TurnScript

/-- If the run fails, then with one of the given errors. -/
def Run.Raises {α : Type} (errors : Error → Prop) (m : Run α) : Prop :=
  ∀ w e, (m.outcome w).1 = .error e → errors e

namespace Run.Raises

variable {errors : Error → Prop} {α β : Type}

theorem pure (a : α) : (pure a : Run α).Raises errors := nofun

theorem throw {e : Error} (he : errors e) : (throw e : Run α).Raises errors := by
  rintro w _ ⟨⟩
  exact he

theorem bind {m : Run α} {f : α → Run β} (hm : m.Raises errors)
    (hf : ∀ a, m.Yields a → (f a).Raises errors) : (m >>= f).Raises errors := by
  intro w e h
  obtain hfails | ⟨a, w₁, ha, hfails⟩ := Run.outcome_bind_eq_error_iff.1 (Prod.ext h rfl)
  · exact hm w e (congrArg Prod.fst hfails)
  · exact hf a ⟨w, w₁, ha⟩ w₁ e (congrArg Prod.fst hfails)

theorem within {step : TrailStep} (hstep : ∀ e, errors e → errors (e.within step)) {m : Run α}
    (hm : m.Raises errors) : (Run.within step m).Raises errors := by
  intro w e h
  obtain ⟨e', hfails, rfl⟩ := Run.outcome_within_eq_error_iff.1 (Prod.ext h rfl)
  exact hstep e' (hm w e' (congrArg Prod.fst hfails))

theorem reading (operational : ∀ e : Error, e.IsOperational → errors e)
    {f : Store → Except Error α} (hf : ∀ store, Operational (f store)) :
    (do Run.ofExcept (f (← get).store) : Run α).Raises errors := by
  intro w e h
  rw [Run.outcome_reading] at h
  exact operational e (hf w.store e h)

theorem lastFlushed {m : Run PUnit} (hm : m.Raises errors) :
    (Run.lastFlushed m).Raises errors := by
  intro w e h
  exact hm w e (congrArg Prod.fst (Run.outcome_lastFlushed_eq_error_iff.1 (Prod.ext h rfl)))

theorem write (operational : ∀ e : Error, e.IsOperational → errors e) (path : String) (v : Value) :
    (Run.write path v).Raises errors := by
  intro w e h
  rw [Run.outcome_write] at h
  cases hset : w.store.set path v with
  | error e' =>
    simp only [hset, Except.error.injEq] at h
    exact h ▸ operational e' (Operational.storeSet path v w.store e' hset)
  | ok store => simp [hset] at h

end Run.Raises

/-- Raising none but the given errors is kept when one run follows another. -/
def ActionCongruence.raises {errors : Error → Prop}
    (operational : ∀ e : Error, e.IsOperational → errors e) :
    ActionCongruence (fun _ => True) errors (fun _ => True) where
  Holds m _ := m.Raises errors
  acknowledged _ _ _ := trivial
  operational := operational
  pure := .pure
  throw := .throw
  bind := .bind
  reading := .reading operational
  log _ := nofun
  emit _ := nofun
  flush := nofun
  write _ := .write operational _

/-- Raising none but the given errors is kept when runs are put together. -/
def Congruence.raises {errors : Error → Prop}
    (operational : ∀ e : Error, e.IsOperational → errors e)
    (within : ∀ step e, errors e → errors (e.within step)) :
    Congruence (fun _ => True) errors (fun _ => True) where
  toActionCongruence := .raises operational
  calling _ _ := trivial
  within step _ _ := .within (within step)
  lastFlushed := .lastFlushed

/-- A function raises the errors of operations only. -/
theorem Function.raises_apply (f : Function) (scope : Scope) (arguments : List Value) :
    (f.apply scope arguments).Raises Error.IsOperational :=
  (ActionCongruence.raises fun _ h => h).apply f scope arguments fun _ _ _ _ => trivial

end TurnScript
