import TurnScript.Proofs.Form.Operators
import TurnScript.Proofs.Keyed
import TurnScript.Proofs.World

/-!
# What the check of a program foresees

The check lists the operators that are no primitives (`mem_unknownOperators_iff`), and the literal
calls of procedures that are not defined (`mem_undefinedTargets_iff`). All that a list evaluates is
searched by the check (`Contains.of_isOperand`), and so are the statements of the procedures. So
what evaluation of such forms passes over was found by the check (`covers_foresees`).
-/

namespace TurnScript

open Form

namespace Program

variable {program : Program} {caller name target : String}

/-- The operator form is in the procedure `caller` of the program. -/
def HasForm (program : Program) (caller : String) (f : OperatorForm) : Prop :=
  ∃ p, (caller, p) ∈ program.procedures ∧ ∃ statement ∈ p.body, Contains f statement

theorem hasForm_iff {f : OperatorForm} :
    program.HasForm caller f ↔ ∃ p, (caller, p) ∈ program.procedures ∧ f ∈ p.operatorForms := by
  simp only [HasForm, Procedure.operatorForms, mem_operatorFormsIn_iff, mem_operatorForms_iff]

/-! ## What the check finds -/

theorem sorted_unknownOperators (program : Program) :
    program.unknownOperators.Pairwise (· < ·) :=
  Keyed.sorted_ofEntries _

theorem mem_unknownOperators_iff :
    name ∈ program.unknownOperators ↔
      Primitive.ofName? name = none ∧
        ∃ caller arguments, program.HasForm caller ⟨name, arguments⟩ := by
  have hmap (unknown : List String) :
      (unknown.map fun name => (name, ())).map Prod.fst = unknown := by
    rw [List.map_map]
    exact List.map_id unknown
  rw [unknownOperators, Keyed.mem_keys_ofEntries_iff, hmap, List.mem_flatMap]
  constructor
  · rintro ⟨⟨caller, p⟩, hp, hname⟩
    obtain ⟨f, hf, rfl⟩ := List.mem_map.1 hname
    obtain ⟨hform, hunknown⟩ := List.mem_filter.1 hf
    exact ⟨by simpa [OperatorForm.isImplemented] using hunknown, caller, f.arguments,
      hasForm_iff.2 ⟨p, hp, hform⟩⟩
  · rintro ⟨hunknown, caller, arguments, hform⟩
    obtain ⟨p, hp, hf⟩ := hasForm_iff.1 hform
    refine ⟨(caller, p), hp, List.mem_map.2 ⟨⟨name, arguments⟩, List.mem_filter.2 ⟨hf, ?_⟩, rfl⟩⟩
    simp [OperatorForm.isImplemented, hunknown]

theorem mem_undefinedTargets_iff :
    (caller, target) ∈ program.undefinedTargets ↔
      program.defines target = false ∧ ∃ f, program.HasForm caller f ∧ f.target? = some target := by
  rw [undefinedTargets, List.mem_flatMap]
  constructor
  · rintro ⟨⟨caller, p⟩, hp, htarget⟩
    obtain ⟨target, htarget, heq⟩ := List.mem_map.1 htarget
    cases heq
    obtain ⟨htarget, hundefined⟩ := List.mem_filter.1 htarget
    obtain ⟨f, hf, hcalls⟩ := List.mem_filterMap.1 htarget
    exact ⟨by simpa using hundefined, f, hasForm_iff.2 ⟨p, hp, hf⟩, hcalls⟩
  · rintro ⟨hundefined, f, hform, hcalls⟩
    obtain ⟨p, hp, hf⟩ := hasForm_iff.1 hform
    have htarget : target ∈ p.operatorForms.filterMap (·.target?) :=
      List.mem_filterMap.2 ⟨f, hf, hcalls⟩
    exact ⟨(caller, p), hp,
      List.mem_map.2 ⟨target, List.mem_filter.2 ⟨htarget, by simp [hundefined]⟩, rfl⟩⟩

theorem undefinedTarget_mem_checkRecords_iff :
    .undefinedTarget caller target ∈ program.checkRecords ↔
      (caller, target) ∈ program.undefinedTargets := by
  simp [checkRecords]

end Program

/-! ## What evaluation passes over -/

/-- What is in a form that a list evaluates is in the list. -/
theorem Form.Contains.of_isOperand {f : OperatorForm} {items : List Form} {form : Form}
    (hoperand : IsOperand items form) (h : Contains f form) : Contains f (.list items) := by
  cases hoperand with
  | argument hne hform => exact .argument (fun hlet => hne hlet.1) hform h
  | expression hbinding => exact .expression hbinding List.mem_cons_self h
  | body hform => exact .body hform h

namespace Program

/-- The form is part of some procedure of the program. -/
def Searches (program : Program) (form : Form) : Prop :=
  ∃ caller, ∀ f, Contains f form → program.HasForm caller f

/-- If the record is of an operator or a literal call that was passed over, then the check found
    it. -/
def Foresees (program : Program) : LogRecord → Prop
  | .unknownPrimitive name => name ∈ program.unknownOperators
  | .undefinedCallee name callee =>
    ∀ literal, callee = .symbol literal ∨ callee = .text literal →
      name = literal ∧ ∃ caller arguments,
        program.HasForm caller ⟨SpecialForm.call.name, callee :: arguments⟩ ∧
          (caller, name) ∈ program.undefinedTargets
  | _ => True

/-- The forms of the program pass over what the check found. -/
theorem covers_foresees (program : Program) :
    Evaluation.Covers program program.Foresees (fun _ => True) program.Searches where
  acknowledged _ _ _ := trivial
  calling _ _ := trivial
  operand items form := by
    rintro ⟨caller, h⟩ hoperand
    exact ⟨caller, fun f hf => h f (.of_isOperand hoperand hf)⟩
  statement name p hp form hform :=
    ⟨name, fun f hf => ⟨p, Keyed.mem_of_find? hp, form, hform, hf⟩⟩
  unknown name arguments := by
    rintro ⟨caller, h⟩ hunknown
    exact mem_unknownOperators_iff.2 ⟨hunknown, caller, arguments, h ⟨name, arguments⟩ .here⟩
  missing items callee name := by
    rintro ⟨caller, h⟩ ⟨⟨arguments, rfl⟩, hname⟩ hundefined literal hcallee
    have hform := h ⟨SpecialForm.call.name, callee :: arguments⟩ .here
    have hliteral : name = literal := by
      rcases hcallee with rfl | rfl <;> exact hname
    have hcalls :
        OperatorForm.target? ⟨SpecialForm.call.name, callee :: arguments⟩ = some name := by
      rcases hcallee with rfl | rfl <;> simp [OperatorForm.target?, hliteral]
    exact ⟨hliteral, caller, arguments, hform,
      mem_undefinedTargets_iff.2 ⟨hundefined, _, hform, hcalls⟩⟩
  write _ _ _ _ _ := trivial

end Program

end TurnScript
