import TurnScript.Proofs.Evaluation.Mirroring
import TurnScript.Proofs.Evaluation.Rules
import TurnScript.Proofs.Program.Flattening

/-!
# Flattening keeps the meaning

A procedure whose body is a lone `SEQ` runs its parts one level further down than the flattened
procedure does, and the `SEQ` is on the trail of their errors. Nothing else tells the two apart. So
the calls in a program as it is written and in the flattened one are mirrored by each other, and the
calls that these make as well. The flattened program needs no more levels than the other one
(`mirroredBy_flattened`), and the program as it is written at most two for each level of the
flattened one (`mirroredBy_written`). Where evaluation is not cut off, the two programs have one
meaning (`call_flattened`).
-/

namespace TurnScript

namespace Evaluation

/-! ## A lone `SEQ` -/

theorem evalAt_sequence (setting : Setting) (n : Nat) (parts : List Form) (scope : Scope) :
    evalAt setting (n + 1) (.list (.symbol "SEQ" :: parts)) scope =
      Run.within (.evaluating (.list (.symbol "SEQ" :: parts)))
        (sequence (evalAt setting n) scope parts) := by
  have harity : SpecialForm.sequence.arity.accepts parts.length := rfl
  exact congrArg (Run.within _) (applyList_special .sequence harity)

variable {eval : Form → Scope → Run Value}

/-- Statements are executed like the parts of a sequence, if its value is left out. -/
theorem forM_eq_sequence (step : TrailStep) (scope : Scope) (forms : List Form) :
    (forms.forM fun form => discard (Run.within step (eval form scope))) =
      discard (Run.within step (sequence eval scope forms)) := by
  -- the value before the first form does not matter
  suffices h : ∀ v, (forms.forM fun form => discard (Run.within step (eval form scope))) =
      discard (Run.within step (forms.foldlM (fun _ form => eval form scope) v)) from h .absent
  induction forms with
  | nil => exact fun _ => rfl
  | cons form forms ih =>
    intro v
    let first := Run.within step (eval form scope)
    let execute (form : Form) : Run PUnit := discard (Run.within step (eval form scope))
    let others (v : Value) := Run.within step (forms.foldlM (fun _ form => eval form scope) v)
    calc (form :: forms).forM execute
      _ = discard first >>= fun _ => forms.forM execute := rfl
      _ = first >>= fun _ => forms.forM execute := Run.discard_bind first _
      _ = first >>= fun v => discard (others v) := congrArg (first >>= ·) (funext ih)
      _ = discard (first >>= others) := (Run.bind_discard first others).symm
      _ = discard (Run.within step ((form :: forms).foldlM (fun _ form => eval form scope) v)) := by
        rw [List.foldlM_cons, Run.within_bind]

/-- A body is run as a sequence, and its last chunk is taken. -/
theorem runBody_eq_sequence (name : String) (scope : Scope) (body : List Form) :
    runBody eval name scope body =
      Run.lastFlushed (discard (Run.within (.executing name) (sequence eval scope body))) :=
  congrArg Run.lastFlushed (forM_eq_sequence (.executing name) scope body)

/-! ## Bodies -/

section Body

variable {setting setting' : Setting} {levels levels' : Nat}

/-- Where bodies are run as sequences, they are mirrored if the sequences are. -/
theorem mirroredBy_runBody {eval eval' : Form → Scope → Run Value} {name : String} {scope : Scope}
    {body body' : List Form}
    (h : (sequence eval scope body).MirroredBy (sequence eval' scope body')) :
    (runBody eval name scope body).MirroredBy (runBody eval' name scope body') := by
  rw [runBody_eq_sequence, runBody_eq_sequence]
  exact .lastFlushed (Congruence.mirroredBy.discard (.within _ h))

/-- A body is mirrored by the flattened one on as many levels. -/
theorem mirroredBy_flattened_body {name : String} {body : List Form}
    (heval : ∀ l, l ≤ levels → ∀ form scope,
      (evalAt setting l form scope).MirroredBy (evalAt setting' levels' form scope))
    (scope : Scope) :
    (runBody (evalAt setting levels) name scope body).MirroredBy
      (runBody (evalAt setting' levels') name scope (Procedure.statements body)) := by
  refine mirroredBy_runBody ?_
  rcases Procedure.statements_cases body with ⟨parts, rfl, hparts⟩ | hbody
  · rw [hparts, sequence_singleton]
    cases levels with
    | zero => exact .of_throw _ _ _
    | succ levels =>
      rw [evalAt_sequence]
      exact .evaluating_left _ (Congruence.mirroredBy.sequence fun form _ =>
        heval levels levels.le_succ form)
  · rw [hbody]
    exact Congruence.mirroredBy.sequence fun form _ => heval levels levels.le_refl form

/-- A flattened body is mirrored by the body, if this has one more level. -/
theorem mirroredBy_written_body {name : String} {body : List Form}
    (heval : ∀ l', levels' ≤ l' → ∀ form scope,
      (evalAt setting levels form scope).MirroredBy (evalAt setting' l' form scope))
    (scope : Scope) :
    (runBody (evalAt setting levels) name scope (Procedure.statements body)).MirroredBy
      (runBody (evalAt setting' (levels' + 1)) name scope body) := by
  refine mirroredBy_runBody ?_
  rcases Procedure.statements_cases body with ⟨parts, rfl, hparts⟩ | hbody
  · rw [hparts, sequence_singleton, evalAt_sequence]
    exact .evaluating_right _ (Congruence.mirroredBy.sequence fun form _ =>
      heval levels' levels'.le_refl form)
  · rw [hbody]
    exact Congruence.mirroredBy.sequence fun form _ => heval _ levels'.le_succ form

end Body

/-! ## Programs -/

variable (written : Program) (limit limit' : Nat)

/-- Calls in a program as it is written are mirrored in the flattened one, on as many levels. -/
theorem mirroredBy_flattened (levels levels' : Nat) (h : levels ≤ levels') (name : String)
    (arguments : List Value) :
    (callAt ⟨written, limit⟩ levels name arguments).MirroredBy
      (callAt ⟨written.flattened, limit'⟩ levels' name arguments) := by
  refine (mirroredBy_of_rate ⟨written, limit⟩ ⟨written.flattened, limit'⟩ Nat.one_pos
    (fun name => (written.defines_flattened name).symm) (fun l l' hl heval name arguments => ?_)
    levels levels' (by rwa [Nat.one_mul])).2 name arguments
  refine mirroredBy_callProcedure (fun hp => ?_) fun p hp => ⟨p.flattened, ?_, rfl, ?_⟩
  · rw [Program.find?_flattened, hp, Option.map_none]
  · rw [Program.find?_flattened, hp, Option.map_some]
  · exact mirroredBy_flattened_body fun k hk => heval k l' hk (by omega)

/-- Calls in a flattened program are mirrored in the program as it is written, where this has two
    levels for each. -/
theorem mirroredBy_written (levels levels' : Nat) (h : 2 * levels ≤ levels') (name : String)
    (arguments : List Value) :
    (callAt ⟨written.flattened, limit⟩ levels name arguments).MirroredBy
      (callAt ⟨written, limit'⟩ levels' name arguments) := by
  refine (mirroredBy_of_rate ⟨written.flattened, limit⟩ ⟨written, limit'⟩ Nat.two_pos
    written.defines_flattened (fun l l' hl heval name arguments => ?_) levels levels' h).2
    name arguments
  -- one level is the call's, the other one is left for the `SEQ`
  obtain ⟨l', rfl⟩ : ∃ k, l' = k + 1 := ⟨l' - 1, by omega⟩
  refine mirroredBy_callProcedure (fun hnone => ?_) fun q hq => ?_
  · rwa [Program.find?_flattened, Option.map_eq_none_iff] at hnone
  · obtain ⟨p, hp, rfl⟩ := Option.map_eq_some_iff.1 (written.find?_flattened name ▸ hq)
    exact ⟨p, hp, rfl, mirroredBy_written_body fun k hk => heval l k l.le_refl (by omega)⟩

/-- The program of some forms and the same program as it is written have one meaning. Where a call in
    the program as it is written does not end unevaluated, the call in the program comes to the same
    value, or to the same error but for the forms on its trail, and leaves the same world; and the
    other way round, if the limit is twice as large. -/
theorem call_flattened {forms : List Form} {program : Program}
    (hprogram : Program.ofForms forms = .ok program) :
    ∃ written, Program.ofFormsAsWritten forms = .ok written ∧
      ∀ (name : String) (arguments : List Value) (limit : Nat) (world world' : World)
        (r : Except Error Value), ¬EndsUnevaluated r →
        ((Setting.call ⟨written, limit⟩ name arguments 0).outcome world = (r, world') →
          ∃ r' world'',
            (Setting.call ⟨program, limit⟩ name arguments 0).outcome world = (r', world'') ∧
              SameResult r r' ∧ SameWorld world' world'') ∧
        ((Setting.call ⟨program, limit⟩ name arguments 0).outcome world = (r, world') →
          ∃ r' world'',
            (Setting.call ⟨written, 2 * limit⟩ name arguments 0).outcome world = (r', world'') ∧
              SameResult r r' ∧ SameWorld world' world'') := by
  rw [Program.ofForms_eq_flattened] at hprogram
  cases hwritten : Program.ofFormsAsWritten forms with
  | error e =>
    rw [hwritten] at hprogram
    cases hprogram
  | ok written =>
    rw [hwritten] at hprogram
    obtain rfl : written.flattened = program := Except.ok.inj hprogram
    refine ⟨written, rfl, fun name arguments limit world world' r hr => ⟨fun h => ?_, fun h => ?_⟩⟩
    · exact (mirroredBy_flattened written limit limit limit limit (Nat.le_refl _) name
        arguments).exists_outcome hr h
    · exact (mirroredBy_written written limit (2 * limit) limit (2 * limit) (Nat.le_refl _) name
        arguments).exists_outcome hr h

/-- A procedure that puts out its argument and then fails to find an item in it. As it is written,
    the `SEQ` around the two statements is on the trail of the error. -/
theorem call_flattened_item :
    let output : Form := .list [.symbol "OUTPUT_TO_USER_BUFFER", .text "A", .symbol "x"]
    let item : Form := .list [.symbol "LIST_GET_ITEM", .symbol "x", .number 0]
    let forms : List Form := [.list [.symbol "DEFINE_PROCEDURE", .symbol "Item",
      .list [.symbol "x"], .list [.symbol "SEQ", output, item]]]
    let program : Program := ⟨[("Item", ⟨"Item", ["x"], [output, item]⟩)]⟩
    let failure : Except Error Value := .error
      (.mismatch (.argumentNotList "LIST_GET_ITEM" .string) [.evaluating item, .executing "Item"])
    let world : World := {
      output := ⟨#[⟨"A", "Hi"⟩]⟩
      journal := #[.log (.calling "Item" 0), .output ⟨"A", "Hi"⟩] }
    (Program.ofForms forms = .ok program ∧ ¬EndsUnevaluated failure ∧
      (Setting.call ⟨program, 3⟩ "Item" [.text "Hi"] 0).outcome {} = (failure, world)) ∧
    ∃ written, Program.ofFormsAsWritten forms = .ok written ∧
      ∃ r' world', (Setting.call ⟨written, 6⟩ "Item" [.text "Hi"] 0).outcome {} = (r', world') ∧
        SameResult failure r' ∧ SameWorld world world' := by
  intro output item forms program failure world
  have hprogram : Program.ofForms forms = .ok program := rfl
  have hfailure : ¬EndsUnevaluated failure := by simp [failure, EndsUnevaluated]
  have hcall : (Setting.call ⟨program, 3⟩ "Item" [.text "Hi"] 0).outcome {} = (failure, world) :=
    rfl
  obtain ⟨written, hwritten, hsame⟩ := call_flattened hprogram
  exact ⟨⟨hprogram, hfailure, hcall⟩, written, hwritten,
    (hsame "Item" [.text "Hi"] 3 {} world failure hfailure).2 hcall⟩

end Evaluation

end TurnScript
