import TurnScript.Proofs.Evaluation.Coverage

/-!
# Chunks of the past

A call answers with the last chunk that is flushed while its procedure runs, and finds it by its
place among all chunks. What was flushed before has no part in that: with earlier chunks in front,
every run comes to the same result, and does the same to the world (`Evaluation.ignoresChunks`).
-/

namespace TurnScript

/-- The world with earlier chunks in front of its own. -/
def World.behind (earlier : Array String) (w : World) : World :=
  { w with chunks := earlier ++ w.chunks }

theorem World.lastChunk_behind (earlier : Array String) (w w' : World) :
    (w.behind earlier).lastChunk (w'.behind earlier) = w.lastChunk w' := by
  by_cases h : w.chunks.size < w'.chunks.size
  · -- the last chunk is one of the later ones
    have hne : w'.chunks ≠ #[] := by
      rintro hnil
      simp [hnil] at h
    have hback : (earlier ++ w'.chunks).back? = w'.chunks.back? := by
      rw [Array.back?_append, Option.or_of_isSome]
      simpa [Array.back?_isSome] using hne
    simp only [lastChunk, behind, hback, Array.size_append, Nat.add_lt_add_iff_left]
  · have hbehind : ¬ (w.behind earlier).chunks.size < (w'.behind earlier).chunks.size := by
      simpa [behind] using h
    have habsent {before after : World} (h : ¬ before.chunks.size < after.chunks.size) :
        before.lastChunk after = .absent := by
      rw [lastChunk]
      split
      · rw [if_neg h]
      · rfl
    rw [habsent h, habsent hbehind]

/-- With earlier chunks in front, the run comes to the same result and does the same. -/
def Run.IgnoresChunks {α : Type} (m : Run α) : Prop :=
  ∀ earlier w, m.outcome (w.behind earlier) = ((m.outcome w).1, (m.outcome w).2.behind earlier)

namespace Run.IgnoresChunks

variable {α β : Type}

theorem bind {m : Run α} {f : α → Run β} (hm : m.IgnoresChunks)
    (hf : ∀ a, m.Yields a → (f a).IgnoresChunks) : (m >>= f).IgnoresChunks := by
  intro earlier w
  have hw := hm earlier w
  cases hr : m.outcome w with
  | mk r w₁ =>
    rw [hr] at hw
    cases r with
    | error e => rw [Run.outcome_bind_error hw, Run.outcome_bind_error hr]
    | ok a =>
      rw [Run.outcome_bind_ok hw, Run.outcome_bind_ok hr]
      exact hf a ⟨w, w₁, hr⟩ earlier w₁

theorem within (step : TrailStep) {m : Run α} (hm : m.IgnoresChunks) :
    (Run.within step m).IgnoresChunks := by
  intro earlier w
  rw [Run.outcome_within, Run.outcome_within, hm]

theorem reading (f : Store → Except Error α) :
    (do Run.ofExcept (f (← get).store) : Run α).IgnoresChunks := by
  intro earlier w
  rw [Run.outcome_reading, Run.outcome_reading]
  rfl

theorem lastFlushed {m : Run PUnit} (hm : m.IgnoresChunks) :
    (Run.lastFlushed m).IgnoresChunks := by
  intro earlier w
  rw [Run.outcome_lastFlushed, Run.outcome_lastFlushed, hm]
  rcases m.outcome w with ⟨_ | _, w'⟩
  · rfl
  · simp only [World.lastChunk_behind]

theorem flush : Run.flush.IgnoresChunks := by
  intro earlier w
  simp [World.behind]

theorem write (path : String) (v : Value) : (Run.write path v).IgnoresChunks := by
  intro earlier w
  have hstore : (w.behind earlier).store = w.store := rfl
  rw [Run.outcome_write, Run.outcome_write, hstore]
  cases w.store.set path v <;> rfl

end Run.IgnoresChunks

/-- Ignoring earlier chunks is kept when runs are put together. -/
def Congruence.ignoresChunks : Congruence (fun _ => True) (fun _ => True) (fun _ => True) where
  Holds m _ := m.IgnoresChunks
  acknowledged _ _ _ := trivial
  calling _ _ := trivial
  operational _ _ := trivial
  pure _ _ _ := rfl
  throw _ _ _ := rfl
  bind := .bind
  within step _ _ := .within step
  reading _ := .reading _
  lastFlushed := .lastFlushed
  log _ _ _ := rfl
  emit _ _ _ := rfl
  flush := .flush
  write _ := .write _

/-- No form, and no call, finds out what was flushed before it. -/
theorem Evaluation.ignoresChunks (setting : Setting) (levels : Nat) :
    (∀ form scope, (evalAt setting levels form scope).IgnoresChunks) ∧
      ∀ name arguments, (callAt setting levels name arguments).IgnoresChunks := by
  obtain ⟨heval, hcall⟩ :=
    holds_of_covers Congruence.ignoresChunks (covers_true setting.program) trivial levels
  exact ⟨fun form scope => heval form scope trivial,
    fun name arguments => hcall name arguments fun _ => trivial⟩

end TurnScript
