import TurnScript.Proofs.Evaluation.Congruence

/-!
# What evaluation may come to

Evaluation of a form leads to its operands, to the statements of the procedures that are called, and
to nothing else. So what it may log, and at which paths it may write, can be told from the text: from
a property of forms that every form passes on to what it evaluates, and that the statements of the
program have (`Covers`). A congruence that allows as much relates the evaluation of such a form to
itself, and every call (`holds_of_covers`).
-/

namespace TurnScript.Evaluation

open Form

/-- The given records are all that is logged in the program, and the given paths all that is written
    at, by forms with a property that they pass on to what they evaluate, and that the statements of
    the program have. -/
structure Covers (program : Program) (records : LogRecord → Prop) (paths : String → Prop)
    (P : Form → Prop) : Prop where
  acknowledged : ∀ tag message category, records (.acknowledged tag message category)
  calling : ∀ name depth, records (.calling name depth)
  operand : ∀ items form, P (.list items) → IsOperand items form → P form
  statement : ∀ name p, program.find? name = some p → ∀ form ∈ p.body, P form
  unknown : ∀ name arguments, P (.list (.symbol name :: arguments)) →
    Primitive.ofName? name = none → records (.unknownPrimitive name)
  missing : ∀ items callee name, P (.list items) → IsCallOf items callee name →
    program.defines name = false → records (.undefinedCallee name callee)
  write : ∀ items target path, P (.list items) → IsWriteOf items target path → paths path

/-- There are no other records than all of them, and no other paths. -/
theorem covers_true (program : Program) :
    Covers program (fun _ => True) (fun _ => True) fun _ => True where
  acknowledged _ _ _ := trivial
  calling _ _ := trivial
  operand _ _ _ _ := trivial
  statement _ _ _ _ _ := trivial
  unknown _ _ _ _ := trivial
  missing _ _ _ _ _ _ := trivial
  write _ _ _ _ _ := trivial

/-- What is kept when runs are put together holds of the evaluation of every covered form, and of
    every call of a procedure that is defined, or may be missing. -/
theorem holds_of_covers {setting : Setting} {records : LogRecord → Prop} {errors : Error → Prop}
    {paths : String → Prop} {P : Form → Prop} (R : Congruence records errors paths)
    (h : Covers setting.program records paths P) (hdeep : errors (tooDeep setting))
    (levels : Nat) :
    (∀ form scope, P form →
        R.Holds (evalAt setting levels form scope) (evalAt setting levels form scope)) ∧
      ∀ name arguments, (setting.program.defines name = false → errors (.procedureNotFound name)) →
        R.Holds (callAt setting levels name arguments) (callAt setting levels name arguments) := by
  induction levels with
  | zero => exact ⟨fun _ _ _ => R.throw hdeep, fun _ _ _ => R.throw hdeep⟩
  | succ levels ih =>
    obtain ⟨heval, hcall⟩ := ih
    refine ⟨fun form scope hform => ?_, fun name arguments hname => ?_⟩
    · refine R.evalAt_succ fun items hitems => ?_
      subst hitems
      -- the operands have the property again, and what the list does is covered
      exact R.applyList (Congruence.evaluatesTexts_evalAt setting levels)
        (fun form hoperand scope => heval form scope (h.operand items form hform hoperand))
        (fun _ name values _ hdefined => hcall name values (by simp [hdefined]))
        (fun callee name hcallee => h.missing items callee name hform hcallee)
        (fun name arguments hitems => h.unknown name arguments (hitems ▸ hform))
        fun target path => h.write items target path hform
    · have hbody : ∀ p, setting.program.find? name = some p → ∀ form ∈ p.body, ∀ scope,
          R.Holds (evalAt setting levels form scope) (evalAt setting levels form scope) :=
        fun p hp form hmem scope => heval form scope (h.statement name p hp form hmem)
      exact R.callProcedure hbody fun hnone => hname (by rw [Program.defines, hnone]; rfl)

end TurnScript.Evaluation
