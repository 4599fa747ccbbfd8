import TurnScript.Proofs.Evaluation.Mirroring
import TurnScript.Proofs.Evaluation.Rules
import TurnScript.Proofs.Evaluation.Scopes

/-!
# Bindings in a row

The bindings of a `LET` are made one after the other, each in the scope of the ones before it, and a
name may be bound again. So a `LET` can be cut anywhere between its bindings, and the later ones
left to a `LET` inside: the value is the same, and what is done to the world (`bindings_in_parts`).

Behind the first part of the bindings, the nested form evaluates the inner `LET`, one level further
down than the flat form goes on with the second part. So it takes at most one level more, and each
form is mirrored by the other one (`mirroredBy_nested`, `mirroredBy_flat`).
-/

namespace TurnScript

/-- The `LET` of these bindings in front of this body. -/
def Form.letIn (bindings body : List Form) : Form :=
  .list (.symbol SpecialForm.binding.name :: .list bindings :: body)

namespace Evaluation

open Form

variable {setting : Setting} {n : Nat} {scope : Scope}

theorem evalAt_letIn (bindings body : List Form) :
    evalAt setting (n + 1) (letIn bindings body) scope =
      Run.within (.evaluating (letIn bindings body)) (do
        let inner ← bindings.foldlM (bindOne (evalAt setting n)) scope
        sequence (evalAt setting n) inner body) := by
  have harity : SpecialForm.binding.arity.accepts (list bindings :: body).length := by
    simp [SpecialForm.arity, Arity.accepts]
  rw [letIn, evalAt, applyList_special .binding harity]
  rfl

/-- The bindings of a `LET` are made in two parts. -/
theorem evalAt_letIn_append (first second body : List Form) :
    evalAt setting (n + 1) (letIn (first ++ second) body) scope =
      Run.within (.evaluating (letIn (first ++ second) body)) (do
        let between ← first.foldlM (bindOne (evalAt setting n)) scope
        let inner ← second.foldlM (bindOne (evalAt setting n)) between
        sequence (evalAt setting n) inner body) := by
  rw [evalAt_letIn, List.foldlM_append, bind_assoc]

theorem evalAt_letIn_nested (first second body : List Form) :
    evalAt setting (n + 1) (letIn first [letIn second body]) scope =
      Run.within (.evaluating (letIn first [letIn second body])) (do
        let between ← first.foldlM (bindOne (evalAt setting n)) scope
        evalAt setting n (letIn second body) between) := by
  simp only [evalAt_letIn, sequence_singleton]

variable (program : Program) (limit limit' : Nat)

/-- Bindings are mirrored where at least as many levels are left. -/
theorem mirroredBy_bindings {levels levels' : Nat} (h : levels ≤ levels') (bindings : List Form)
    (scope : Scope) :
    (bindings.foldlM (bindOne (evalAt ⟨program, limit⟩ levels)) scope).MirroredBy
      (bindings.foldlM (bindOne (evalAt ⟨program, limit'⟩ levels')) scope) :=
  Congruence.mirroredBy.foldlM (fun _ _ _ => Congruence.mirroredBy.bindOne fun _ form _ =>
    (mirroredBy_of_le program h).1 form) scope

theorem mirroredBy_sequence {levels levels' : Nat} (h : levels ≤ levels') (forms : List Form)
    (scope : Scope) :
    (sequence (evalAt ⟨program, limit⟩ levels) scope forms).MirroredBy
      (sequence (evalAt ⟨program, limit'⟩ levels') scope forms) :=
  Congruence.mirroredBy.sequence fun form _ => (mirroredBy_of_le program h).1 form

/-- A `LET` is mirrored by the nested one on a level more. -/
theorem mirroredBy_nested (first second body : List Form) (levels : Nat) (scope : Scope) :
    (evalAt ⟨program, limit⟩ (levels + 1) (letIn (first ++ second) body) scope).MirroredBy
      (evalAt ⟨program, limit'⟩ (levels + 2) (letIn first [letIn second body]) scope) := by
  rw [evalAt_letIn_append, evalAt_letIn_nested]
  refine .evaluating_left _ (.evaluating_right _ ?_)
  refine .bind (mirroredBy_bindings program _ _ levels.le_succ first scope) fun between _ => ?_
  rw [evalAt_letIn]
  exact .evaluating_right _ (.bind (mirroredBy_bindings program _ _ levels.le_refl second between)
    fun inner _ => mirroredBy_sequence program _ _ levels.le_refl body inner)

/-- A nested `LET` is mirrored by the flat one on the same level. -/
theorem mirroredBy_flat (first second body : List Form) (levels : Nat) (scope : Scope) :
    (evalAt ⟨program, limit⟩ (levels + 1) (letIn first [letIn second body]) scope).MirroredBy
      (evalAt ⟨program, limit'⟩ (levels + 1) (letIn (first ++ second) body) scope) := by
  rw [evalAt_letIn_append, evalAt_letIn_nested]
  refine .evaluating_left _ (.evaluating_right _ ?_)
  refine .bind (mirroredBy_bindings program _ _ levels.le_refl first scope) fun between _ => ?_
  cases levels with
  | zero => exact .of_throw _ _ _
  | succ levels =>
    rw [evalAt_letIn]
    exact .evaluating_left _ (.bind (mirroredBy_bindings program _ _ levels.le_succ second between)
      fun inner _ => mirroredBy_sequence program _ _ levels.le_succ body inner)

/-- The bindings of a `LET` can be cut in two, and the second part left to a `LET` inside. Where the
    flat form has a value, the nested one has it under a limit that allows one level more; where the
    nested form has a value, the flat one has it under the same limit. Either leaves the world that
    the other one leaves. It is enough that their scopes agree. -/
theorem bindings_in_parts (first second body : List Form) {scope scope' : Scope}
    (hscope : scope.Agrees scope') (depth : Nat) (world world' : World) (v : Value) :
    ((Setting.evalOn ⟨program, limit⟩ (letIn (first ++ second) body) scope depth).outcome world =
        (.ok v, world') →
      ∃ world'', (Setting.evalOn ⟨program, limit + 1⟩ (letIn first [letIn second body]) scope'
        depth).outcome world = (.ok v, world'') ∧ SameWorld world' world'') ∧
    ((Setting.evalOn ⟨program, limit⟩ (letIn first [letIn second body]) scope depth).outcome world =
        (.ok v, world') →
      ∃ world'', (Setting.evalOn ⟨program, limit⟩ (letIn (first ++ second) body) scope'
        depth).outcome world = (.ok v, world'') ∧ SameWorld world' world'') := by
  simp only [Setting.evalOn, Setting.levelsAt, ← evalAt_eq_of_agrees _ _ _ hscope]
  cases hlevels : limit - depth with
  | zero =>
    constructor
    · rintro ⟨⟩
    · rintro ⟨⟩
  | succ levels =>
    have hmore : limit + 1 - depth = levels + 2 := by omega
    rw [hmore]
    exact ⟨(mirroredBy_nested program _ _ first second body levels scope).exists_outcome_ok,
      (mirroredBy_flat program _ _ first second body levels scope).exists_outcome_ok⟩

/-- A name that is bound twice, by two bindings in a row or by two forms, and was bound before. -/
theorem bindings_in_parts_rebound :
    let first : List Form := [.list [.symbol "x", .text "A"]]
    let second : List Form :=
      [.list [.symbol "x", .list [.symbol "STRING_CONCAT", .symbol "x", .text "B"]]]
    let body : List Form :=
      [.list [.symbol "OUTPUT_TO_USER_BUFFER", .text "T", .symbol "x"], .symbol "x"]
    let scope : Scope := { bindings := [("x", .text "C")] }
    let scope' : Scope := scope.define "x" (.text "C")
    let world : World := { output := ⟨#[⟨"T", "AB"⟩]⟩, journal := #[.output ⟨"T", "AB"⟩] }
    (scope.Agrees scope' ∧
      (Setting.evalOn ⟨{}, 3⟩ (letIn (first ++ second) body) scope 0).outcome {} =
        (.ok (.text "AB"), world) ∧
      (Setting.evalOn ⟨{}, 4⟩ (letIn first [letIn second body]) scope 0).outcome {} =
        (.ok (.text "AB"), world)) ∧
    (∃ world', (Setting.evalOn ⟨{}, 4⟩ (letIn first [letIn second body]) scope' 0).outcome {} =
      (.ok (.text "AB"), world') ∧ SameWorld world world') ∧
    ∃ world', (Setting.evalOn ⟨{}, 4⟩ (letIn (first ++ second) body) scope' 0).outcome {} =
      (.ok (.text "AB"), world') ∧ SameWorld world world' := by
  intro first second body scope scope' world
  have hscope : scope.Agrees scope' := by
    refine ⟨fun name => ?_, rfl⟩
    simp [scope', scope, Scope.find?, Scope.define, Keyed.find?]
  have hflat : (Setting.evalOn ⟨{}, 3⟩ (letIn (first ++ second) body) scope 0).outcome {} =
      (.ok (.text "AB"), world) := rfl
  have hnested : (Setting.evalOn ⟨{}, 4⟩ (letIn first [letIn second body]) scope 0).outcome {} =
      (.ok (.text "AB"), world) := rfl
  exact ⟨⟨hscope, hflat, hnested⟩,
    (bindings_in_parts {} 3 first second body hscope 0 {} world _).1 hflat,
    (bindings_in_parts {} 4 first second body hscope 0 {} world _).2 hnested⟩

end Evaluation

end TurnScript
