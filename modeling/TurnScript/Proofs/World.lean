import Mathlib.Logic.Relation
import TurnScript.Proofs.Evaluation.Coverage

/-!
# Steps in the world

Whatever a run does to the world, it does by the four actions: it logs, emits, flushes and writes
(`World.Step`). So a run leads from a world to another one along such steps (`Run.Moves`), and what
every step keeps, every run keeps. The same is true of other relations between worlds that are
reflexive and transitive (`Congruence.follows`).

The records that may be logged are a parameter: evaluation of a form logs none but those that cover
it (`moves_of_covers`).
-/

namespace TurnScript

/-- One action on the world, in which one of the given records may be logged. -/
inductive World.Step (records : LogRecord → Prop) : World → World → Prop
  | log {record : LogRecord} (w : World) : records record →
    Step records w { w with journal := w.journal.push (.log record) }
  | emit (entry : Output.Entry) (w : World) :
    Step records w { w with
      output := w.output.append entry, journal := w.journal.push (.output entry) }
  | flush (w : World) :
    Step records w { w with
      output := w.output.flush.2, chunks := w.chunks.push w.output.flush.1 }
  | write {path : String} {v : Value} {store : Store} (w : World) : w.store.set path v = .ok store →
    Step records w { w with store }

section Journal

variable {journal : Array Event} {record : LogRecord}

theorem log_mem_push_log_iff {logged : LogRecord} :
    .log record ∈ journal.push (.log logged) ↔ .log record ∈ journal ∨ record = logged := by
  rw [Array.mem_push, Event.log.injEq]

theorem log_mem_push_output_iff {entry : Output.Entry} :
    .log record ∈ journal.push (.output entry) ↔ .log record ∈ journal := by
  rw [Array.mem_push]
  exact or_iff_left nofun

end Journal

/-- What is in the journal after several steps was there before, or is one of the given records. -/
theorem World.records_of_reflTransGen {records : LogRecord → Prop} {w w' : World}
    {record : LogRecord} (h : Relation.ReflTransGen (Step records) w w')
    (hrecord : .log record ∈ w'.journal) : .log record ∈ w.journal ∨ records record := by
  induction h with
  | refl => exact .inl hrecord
  | tail _ hstep ih =>
    cases hstep with
    | log _ hlogged =>
      rcases log_mem_push_log_iff.1 hrecord with hbefore | rfl
      · exact ih hbefore
      · exact .inr hlogged
    | emit entry => exact ih (log_mem_push_output_iff.1 hrecord)
    | flush => exact ih hrecord
    | write _ _ => exact ih hrecord

/-! ## Where runs lead -/

/-- Whatever its result, the run leads from every world to one that is related to it. -/
def Run.Follows {α : Type} (related : World → World → Prop) (m : Run α) : Prop :=
  ∀ w, related w (m.outcome w).2

theorem Run.Follows.bind {α β : Type} {related : World → World → Prop}
    (trans : ∀ u v w, related u v → related v w → related u w) {m : Run α} {f : α → Run β}
    (hm : m.Follows related) (hf : ∀ a, m.Yields a → (f a).Follows related) :
    (m >>= f).Follows related := by
  intro w
  have hw := hm w
  cases hr : m.outcome w with
  | mk r w₁ =>
    rw [hr] at hw
    cases r with
    | error e => rwa [Run.outcome_bind_error hr]
    | ok a =>
      rw [Run.outcome_bind_ok hr]
      exact trans _ _ _ hw (hf a ⟨w, w₁, hr⟩ w₁)

/-- A write that fails leads nowhere else. -/
theorem Run.Follows.write {related : World → World → Prop} {path : String} {v : Value}
    (refl : ∀ w, related w w)
    (h : ∀ w store, w.store.set path v = .ok store → related w { w with store }) :
    (Run.write path v).Follows related := by
  intro w
  rw [Run.outcome_write]
  cases hset : w.store.set path v with
  | error e => exact refl w
  | ok store => exact h w store hset

/-- Leading to a related world is kept when runs are put together, if the relation is reflexive and
    transitive and the actions lead to related worlds. -/
def Congruence.follows (records : LogRecord → Prop) (paths : String → Prop)
    (related : World → World → Prop) (refl : ∀ w, related w w)
    (trans : ∀ u v w, related u v → related v w → related u w)
    (acknowledged : ∀ tag message category, records (.acknowledged tag message category))
    (calling : ∀ name depth, records (.calling name depth))
    (log : ∀ {record}, records record → (Run.log record).Follows related)
    (emit : ∀ entry, (Run.emit entry).Follows related) (flush : Run.flush.Follows related)
    (write : ∀ {path}, paths path → ∀ v w store, w.store.set path v = .ok store →
      related w { w with store }) :
    Congruence records (fun _ => True) paths where
  Holds m _ := m.Follows related
  acknowledged := acknowledged
  calling := calling
  operational _ _ := trivial
  pure _ := refl
  throw _ := refl
  bind := .bind trans
  within step m _ h w := by
    rw [Run.outcome_within]
    exact h w
  reading _ w := by
    rw [Run.outcome_reading]
    exact refl w
  lastFlushed h w := by
    rw [Run.outcome_lastFlushed_snd]
    exact h w
  log := log
  emit := emit
  flush := flush
  write hpath v := .write refl (write hpath v)

/-- The run leads along steps to the world that it leaves, whatever its result. -/
def Run.Moves {α : Type} (records : LogRecord → Prop) (m : Run α) : Prop :=
  ∀ w, Relation.ReflTransGen (World.Step records) w (m.outcome w).2

/-- Leading along steps is kept when runs are put together. -/
def Congruence.moves (records : LogRecord → Prop) (paths : String → Prop)
    (acknowledged : ∀ tag message category, records (.acknowledged tag message category))
    (calling : ∀ name depth, records (.calling name depth)) :
    Congruence records (fun _ => True) paths :=
  .follows records paths (Relation.ReflTransGen (World.Step records)) (fun _ => .refl)
    (fun _ _ _ => .trans) acknowledged calling
    (fun hrecord w => by
      rw [Run.outcome_log]
      exact .single (.log w hrecord))
    (fun entry w => by
      rw [Run.outcome_emit]
      exact .single (.emit entry w))
    (fun w => by
      rw [Run.outcome_flush]
      exact .single (.flush w))
    fun _ _ w _ hset => .single (.write w hset)

namespace Evaluation

open Form

/-! ## What is logged -/

/-- Passing over an operator leaves a record of it and then the warning in the journal. -/
theorem journal_passOver (name : String) (w : World) :
    ((passOver name).outcome w).2.journal.toList = w.journal.toList ++
      [.log (.unknownPrimitive name),
        .output ⟨"WARNING", "Primitive '" ++ name ++ "' not implemented."⟩] := by
  rw [passOver, Run.outcome_bind_ok (Run.outcome_log _ w),
    Run.outcome_bind_ok (Run.outcome_emit _ _)]
  simp

/-- Passing over a call leaves a record of it and then the error in the journal. -/
theorem journal_passOverCall (name : String) (callee : Form) (w : World) :
    ((passOverCall name callee).outcome w).2.journal.toList = w.journal.toList ++
      [.log (.undefinedCallee name callee),
        .output ⟨"ERROR", (Error.procedureNotFound name).message⟩] := by
  rw [passOverCall, Run.outcome_bind_ok (Run.outcome_log _ w),
    Run.outcome_bind_ok (Run.outcome_emit _ _)]
  simp

/-- Evaluation of a covered form, and every call, leads along steps that log the given records. -/
theorem moves_of_covers {setting : Setting} {records : LogRecord → Prop} {paths : String → Prop}
    {P : Form → Prop} (h : Covers setting.program records paths P) (levels : Nat) :
    (∀ form scope, P form → (evalAt setting levels form scope).Moves records) ∧
      ∀ name arguments, (callAt setting levels name arguments).Moves records := by
  obtain ⟨heval, hcall⟩ := holds_of_covers
    (Congruence.moves records paths h.acknowledged h.calling) h trivial levels
  exact ⟨heval, fun name arguments => hcall name arguments fun _ => trivial⟩

end Evaluation

end TurnScript
