import TurnScript.World

/-!
# Outcomes of runs

What a run comes to in a world, and in which world it leaves us: one equation for each way in which
runs are made. Proofs about evaluation go by these and unfold no run. A run of several parts fails
in one of them, after those before it (`outcome_foldlM_eq_error_iff`, `outcome_mapM_eq_error_iff`).
-/

namespace TurnScript

/-- What a call answers that leads from one world to another: the last chunk that was flushed
    meanwhile. -/
def World.lastChunk (before after : World) : Value :=
  match after.chunks.back? with
  | some chunk => if before.chunks.size < after.chunks.size then .text chunk else .absent
  | none => .absent

namespace Run

variable {α β : Type} {w w' : World}

@[simp] theorem outcome_pure (a : α) (w : World) : (pure a : Run α).outcome w = (.ok a, w) := rfl

@[simp] theorem outcome_throw (e : Error) (w : World) :
    (throw e : Run α).outcome w = (.error e, w) := rfl

/-- What follows a result is run in the world that it left; an error is the outcome. -/
theorem outcome_bind (m : Run α) (f : α → Run β) (w : World) :
    (m >>= f).outcome w =
      match m.outcome w with
      | (.ok a, w') => (f a).outcome w'
      | (.error e, w') => (.error e, w') := by
  -- the second part is given the result of the first, and continues in its world
  have hbind : (m >>= f).outcome w =
      (ExceptT.bindCont f (m.outcome w).1 : StateM World (Except Error β)).run (m.outcome w).2 :=
    rfl
  rw [hbind]
  rcases m.outcome w with ⟨_ | _, _⟩ <;> rfl

theorem outcome_bind_ok {m : Run α} {a : α} (h : m.outcome w = (.ok a, w')) (f : α → Run β) :
    (m >>= f).outcome w = (f a).outcome w' := by
  rw [outcome_bind, h]

theorem outcome_bind_error {m : Run α} {e : Error} (h : m.outcome w = (.error e, w'))
    (f : α → Run β) : (m >>= f).outcome w = (.error e, w') := by
  rw [outcome_bind, h]

/-- Both parts of a run that succeeds do. -/
theorem outcome_bind_eq_ok_iff {m : Run α} {f : α → Run β} {b : β} :
    (m >>= f).outcome w = (.ok b, w') ↔
      ∃ a w₁, m.outcome w = (.ok a, w₁) ∧ (f a).outcome w₁ = (.ok b, w') := by
  rw [outcome_bind]
  rcases m.outcome w with ⟨_ | _, _⟩ <;> simp [and_assoc]

/-- A run of two parts fails in the first, or in the second after a result of the first. -/
theorem outcome_bind_eq_error_iff {m : Run α} {f : α → Run β} {e : Error} :
    (m >>= f).outcome w = (.error e, w') ↔
      m.outcome w = (.error e, w') ∨
        ∃ a w₁, m.outcome w = (.ok a, w₁) ∧ (f a).outcome w₁ = (.error e, w') := by
  rw [outcome_bind]
  rcases m.outcome w with ⟨_ | _, _⟩ <;> simp [and_assoc]

/-- A step is put on the trail of an error, and nothing else changes. -/
theorem outcome_within (step : TrailStep) (m : Run α) (w : World) :
    (within step m).outcome w =
      ((m.outcome w).1.mapError (Error.within step), (m.outcome w).2) :=
  rfl

@[simp] theorem outcome_get (w : World) : (get : Run World).outcome w = (.ok w, w) := rfl

@[simp] theorem outcome_ofExcept (x : Except Error α) (w : World) :
    (ofExcept x).outcome w = (x, w) := by
  cases x <;> rfl

@[simp] theorem outcome_log (record : LogRecord) (w : World) :
    (log record).outcome w = (.ok (), { w with journal := w.journal.push (.log record) }) := rfl

@[simp] theorem outcome_emit (entry : Output.Entry) (w : World) :
    (emit entry).outcome w =
      (.ok (), { w with
        output := w.output.append entry, journal := w.journal.push (.output entry) }) := rfl

@[simp] theorem outcome_flush (w : World) :
    flush.outcome w =
      (.ok w.output.flush.1,
        { w with output := w.output.flush.2, chunks := w.chunks.push w.output.flush.1 }) := rfl

@[simp] theorem outcome_chunkCount (w : World) :
    chunkCount.outcome w = (.ok w.chunks.size, w) := rfl

@[simp] theorem outcome_read (path : String) (w : World) :
    (read path).outcome w = (w.store.get path, w) := by
  change (ofExcept (w.store.get path)).outcome w = _
  rw [outcome_ofExcept]

/-- A write stores the value, or fails and leaves the world as it is. -/
theorem outcome_write (path : String) (v : Value) (w : World) :
    (write path v).outcome w =
      match w.store.set path v with
      | .ok store => (.ok (), { w with store })
      | .error e => (.error e, w) := by
  change (ofExcept (w.store.set path v) >>=
    fun store => modify fun w => { w with store }).outcome w = _
  rw [outcome_bind, outcome_ofExcept]
  cases w.store.set path v <;> rfl

/-- What is read of the store leaves the world as it is. -/
theorem outcome_reading (f : Store → Except Error α) (w : World) :
    (do ofExcept (f (← get).store) : Run α).outcome w = (f w.store, w) := by
  rw [outcome_bind_ok (outcome_get w), outcome_ofExcept]

/-- A run is what it comes to in each world. -/
theorem eq_of_outcome {m m' : Run α} (h : ∀ w, m.outcome w = m'.outcome w) : m = m' := funext h

/-- An error of either part goes past the same steps. -/
theorem within_bind (step : TrailStep) (m : Run α) (f : α → Run β) :
    within step (m >>= f) = within step m >>= fun a => within step (f a) := by
  refine eq_of_outcome fun w => ?_
  rw [outcome_within, outcome_bind, outcome_bind, outcome_within]
  rcases m.outcome w with ⟨_ | _, _⟩ <;> rfl

theorem discard_bind (m : Run α) (f : PUnit → Run β) :
    discard m >>= f = m >>= fun _ => f ⟨⟩ := by
  change (m >>= fun _ => pure ⟨⟩) >>= f = _
  rw [bind_assoc]
  simp only [pure_bind]

theorem bind_discard (m : Run α) (f : α → Run β) :
    discard (m >>= f) = m >>= fun a => discard (f a) :=
  bind_assoc m f _

/-- Runs `m` for its chunks: the result is the last one that is flushed meanwhile, if any is. -/
def lastFlushed (m : Run PUnit) : Run Value := do
  let before ← chunkCount
  m
  let chunks := (← get).chunks
  match chunks.back? with
  | some chunk => return if before < chunks.size then .text chunk else .absent
  | none => return .absent

theorem outcome_lastFlushed (m : Run PUnit) (w : World) :
    (lastFlushed m).outcome w =
      match m.outcome w with
      | (.ok _, w') => (.ok (w.lastChunk w'), w')
      | (.error e, w') => (.error e, w') := by
  rw [lastFlushed, outcome_bind_ok (outcome_chunkCount w), outcome_bind]
  cases m.outcome w with
  | mk r w' =>
    cases r with
    | error e => rfl
    | ok =>
      simp only [outcome_bind_ok (outcome_get w'), World.lastChunk]
      cases w'.chunks.back? <;> rfl

/-- Looking at the chunks changes nothing. -/
theorem outcome_lastFlushed_snd (m : Run PUnit) (w : World) :
    ((lastFlushed m).outcome w).2 = (m.outcome w).2 := by
  rw [outcome_lastFlushed]
  rcases m.outcome w with ⟨_ | _, _⟩ <;> rfl

/-- The run can come to this result. -/
def Yields (m : Run α) (a : α) : Prop := ∃ w w', m.outcome w = (.ok a, w')

theorem yields_pure_iff {a b : α} : (pure a : Run α).Yields b ↔ b = a := by
  constructor
  · rintro ⟨w, w', h⟩
    simp only [outcome_pure, Prod.mk.injEq, Except.ok.injEq] at h
    exact h.1.symm
  · rintro rfl
    exact ⟨default, default, rfl⟩

theorem not_yields_throw {e : Error} {a : α} : ¬(throw e : Run α).Yields a := by
  rintro ⟨w, w', h⟩
  simp at h

/-- What a run of two parts yields, the second yields after a result of the first. -/
theorem Yields.of_bind {m : Run α} {f : α → Run β} {b : β} (h : (m >>= f).Yields b) :
    ∃ a, m.Yields a ∧ (f a).Yields b := by
  obtain ⟨w, w', h⟩ := h
  obtain ⟨a, w₁, hm, hf⟩ := outcome_bind_eq_ok_iff.1 h
  exact ⟨a, ⟨w, w₁, hm⟩, w₁, w', hf⟩

/-! ## Where a run fails -/

section Failing

variable {m : Run α} {f : α → Run β} {e : Error}

theorem outcome_discard_eq_error_iff :
    (discard m).outcome w = (.error e, w') ↔ m.outcome w = (.error e, w') := by
  have hdiscard : discard m = m >>= fun _ => (pure ⟨⟩ : Run PUnit) := rfl
  rw [hdiscard, outcome_bind_eq_error_iff]
  simp

theorem outcome_within_eq_error_iff {step : TrailStep} :
    (within step m).outcome w = (.error e, w') ↔
      ∃ e₀, m.outcome w = (.error e₀, w') ∧ e = e₀.within step := by
  rw [outcome_within]
  rcases m.outcome w with ⟨e₀ | a, w₁⟩
  · constructor
    · rintro ⟨⟩
      exact ⟨e₀, rfl, rfl⟩
    · rintro ⟨_, ⟨⟩, rfl⟩
      rfl
  · constructor
    · rintro ⟨⟩
    · rintro ⟨_, ⟨⟩, -⟩

theorem outcome_lastFlushed_eq_error_iff {m : Run PUnit} :
    (lastFlushed m).outcome w = (.error e, w') ↔ m.outcome w = (.error e, w') := by
  rw [outcome_lastFlushed]
  rcases m.outcome w with ⟨_ | _, _⟩ <;> simp

/-- A fold fails at one of the elements, after those before it. -/
theorem outcome_foldlM_eq_error_iff {f : β → α → Run β} {as : List α} {b : β} :
    (as.foldlM f b).outcome w = (.error e, w') ↔
      ∃ before a after c w₁, as = before ++ a :: after ∧
        (before.foldlM f b).outcome w = (.ok c, w₁) ∧ (f c a).outcome w₁ = (.error e, w') := by
  induction as generalizing b w with
  | nil => simp
  | cons a as ih =>
    rw [List.foldlM_cons, outcome_bind_eq_error_iff]
    constructor
    · rintro (h | ⟨c, w₁, hc, h⟩)
      · exact ⟨[], a, as, b, w, rfl, rfl, h⟩
      · obtain ⟨before, x, after, d, w₂, rfl, hbefore, hx⟩ := ih.1 h
        refine ⟨a :: before, x, after, d, w₂, rfl, ?_, hx⟩
        rw [List.foldlM_cons, outcome_bind_ok hc, hbefore]
    · rintro ⟨_ | ⟨y, before⟩, x, after, d, w₂, has, hbefore, hx⟩
      · cases has
        cases hbefore
        exact .inl hx
      · cases has
        rw [List.foldlM_cons, outcome_bind_eq_ok_iff] at hbefore
        obtain ⟨c, w₁, hc, hbefore⟩ := hbefore
        exact .inr ⟨c, w₁, hc, ih.2 ⟨before, x, after, d, w₂, rfl, hbefore, hx⟩⟩

/-- Several runs fail in one of them, after those before it. -/
theorem outcome_mapM_eq_error_iff {as : List α} :
    (as.mapM f).outcome w = (.error e, w') ↔
      ∃ before a after bs w₁, as = before ++ a :: after ∧
        (before.mapM f).outcome w = (.ok bs, w₁) ∧ (f a).outcome w₁ = (.error e, w') := by
  -- the results are put together by a fold, each in front of those before it
  simp only [List.mapM_eq_reverse_foldlM_cons, ← bind_pure_comp, outcome_bind_eq_error_iff,
    outcome_bind_eq_ok_iff, outcome_foldlM_eq_error_iff, outcome_pure, Prod.mk.injEq,
    Except.ok.injEq, reduceCtorEq, false_and, and_false, exists_false, or_false]
  constructor
  · rintro ⟨before, a, after, bs, w₁, has, hbefore, ha⟩
    exact ⟨before, a, after, bs.reverse, w₁, has, ⟨bs, w₁, hbefore, rfl, rfl⟩, ha⟩
  · rintro ⟨before, a, after, _, w₁, has, ⟨bs, _, hbefore, rfl, rfl⟩, ha⟩
    exact ⟨before, a, after, bs, _, has, hbefore, ha⟩

end Failing

end Run

end TurnScript
