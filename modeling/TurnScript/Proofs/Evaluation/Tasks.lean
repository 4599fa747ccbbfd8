import TurnScript.Proofs.Evaluation.Flattening

/-!
# What evaluation comes to

Evaluating a list comes to *tasks* on the next level: to the evaluation of its parts, one after the
other as long as these have values, and to the call of a procedure (`Reaches`). Calling a procedure
comes to the evaluation of its statements (`Executes`). So there are two ways to fail: a task fails
that was come to, or a list or a call raises an error itself (`Fails`, `Refuses`).

The relations say which parts there are, in which scope and after what; they mention neither errors
of parts nor what becomes of them. That evaluation fails in these two ways and in no other is shown
for a list in the lemmas `failsAt_of_applyList`, `Fails.applyList` and `Reaches.applyList`, and for
a procedure in `callProcedure_eq_error_iff`.
-/

namespace TurnScript

/-! ## Tasks -/

/-- What can be run on a level: the evaluation of a form, or the call of a procedure. -/
inductive Task
  | eval (form : Form) (scope : Scope)
  | call (name : String) (arguments : List Value)

namespace Evaluation

section Level

variable (program : Program) (eval : Form → Scope → Run Value)
  (call : String → List Value → Run Value)

/-- A task, run by these evaluations and calls. -/
def runTask : Task → Run Value
  | .eval form scope => eval form scope
  | .call name arguments => call name arguments

/-- Evaluating a list of these elements in this scope, from the world `w` on, comes to a task in
    another world: what had to be evaluated before it has a value. -/
inductive Reaches (scope : Scope) (w : World) : List Form → Task → World → Prop
  /-- An argument of a function; a state path that is written as a bare symbol is none. -/
  | argument {f : Function} {before after : List Form} {form : Form} {values : List Value}
      {w₁ : World} :
    f.arity.accepts (before ++ form :: after).length →
    (functionArguments eval f scope before).outcome w = (.ok values, w₁) →
    ¬(f.takesPath ∧ before = [] ∧ ∃ path, form = .symbol path) →
    Reaches scope w (.symbol f.name :: (before ++ form :: after)) (.eval form scope) w₁
  /-- A form of a `SEQ`. -/
  | part {before after : List Form} {form : Form} {v : Value} {w₁ : World} :
    (sequence eval scope before).outcome w = (.ok v, w₁) →
    Reaches scope w (.symbol SpecialForm.sequence.name :: (before ++ form :: after))
      (.eval form scope) w₁
  | condition {form : Form} {branches : List Form} :
    SpecialForm.choice.arity.accepts (form :: branches).length →
    Reaches scope w (.symbol SpecialForm.choice.name :: form :: branches) (.eval form scope) w
  | whenTrue {condition form : Form} {rest : List Form} {v : Value} {w₁ : World} :
    SpecialForm.choice.arity.accepts (condition :: form :: rest).length →
    (eval condition scope).outcome w = (.ok v, w₁) → v.isTruthy →
    Reaches scope w (.symbol SpecialForm.choice.name :: condition :: form :: rest)
      (.eval form scope) w₁
  | whenFalse {condition whenTrue form : Form} {v : Value} {w₁ : World} :
    (eval condition scope).outcome w = (.ok v, w₁) → v.isTruthy = false →
    Reaches scope w [.symbol SpecialForm.choice.name, condition, whenTrue, form]
      (.eval form scope) w₁
  /-- The expression of a binding, in the scope of those before it. -/
  | expression {before after body : List Form} {name : String} {form : Form} {inner : Scope}
      {w₁ : World} :
    (before.foldlM (bindOne eval) scope).outcome w = (.ok inner, w₁) →
    Reaches scope w
      (.symbol SpecialForm.binding.name ::
        .list (before ++ .list [.symbol name, form] :: after) :: body)
      (.eval form inner) w₁
  /-- A form of the body of a `LET`. -/
  | body {bindings before after : List Form} {form : Form} {inner : Scope} {v : Value}
      {w₁ w₂ : World} :
    (bindings.foldlM (bindOne eval) scope).outcome w = (.ok inner, w₁) →
    (sequence eval inner before).outcome w₁ = (.ok v, w₂) →
    Reaches scope w
      (.symbol SpecialForm.binding.name :: .list bindings :: (before ++ form :: after))
      (.eval form inner) w₂
  /-- The expression for the name of the procedure to call. -/
  | callee {form : Form} {arguments : List Form} : (∀ name, form ≠ .symbol name) →
    Reaches scope w (.symbol SpecialForm.call.name :: form :: arguments) (.eval form scope) w
  /-- An argument for a procedure, if it is defined. -/
  | given {callee form : Form} {before after : List Form} {name : String} {values : List Value}
      {w₁ w₂ : World} :
    (calleeName eval scope callee).outcome w = (.ok name, w₁) → program.defines name →
    (before.mapM (eval · scope)).outcome w₁ = (.ok values, w₂) →
    Reaches scope w (.symbol SpecialForm.call.name :: callee :: (before ++ form :: after))
      (.eval form scope) w₂
  /-- The procedure itself. -/
  | procedure {callee : Form} {arguments : List Form} {name : String} {values : List Value}
      {w₁ w₂ : World} :
    (calleeName eval scope callee).outcome w = (.ok name, w₁) → program.defines name →
    (arguments.mapM (eval · scope)).outcome w₁ = (.ok values, w₂) →
    Reaches scope w (.symbol SpecialForm.call.name :: callee :: arguments) (.call name values) w₂

/-- Evaluating a list of these elements in this scope, from the world `w` on, raises an error
    itself, in another world. -/
inductive Fails (scope : Scope) (w : World) : List Form → Error → World → Prop
  | empty : Fails scope w [] (.evaluation .emptyList []) w
  | operator {head : Form} {arguments : List Form} : (∀ name, head ≠ .symbol name) →
    Fails scope w (head :: arguments) (.mismatch (.operatorNotSymbol head) []) w
  | arity {p : Primitive} {arguments : List Form} : p.arity.accepts arguments.length = false →
    Fails scope w (.symbol p.name :: arguments) (.arity p.name p.arity arguments.length) w
  /-- The function fails with its arguments. -/
  | function {f : Function} {arguments : List Form} {values : List Value} {e : Error}
      {w₁ w₂ : World} :
    f.arity.accepts arguments.length →
    (functionArguments eval f scope arguments).outcome w = (.ok values, w₁) →
    (f.apply scope values).outcome w₁ = (.error e, w₂) →
    Fails scope w (.symbol f.name :: arguments) e w₂
  | bindings {form : Form} {body : List Form} : (∀ bindings, form ≠ .list bindings) →
    Fails scope w (.symbol SpecialForm.binding.name :: form :: body)
      (.mismatch (.bindingsNotList form) []) w
  | binding {before after body : List Form} {binding : Form} {inner : Scope} {w₁ : World} :
    (before.foldlM (bindOne eval) scope).outcome w = (.ok inner, w₁) →
    (∀ name form, binding ≠ .list [.symbol name, form]) →
    Fails scope w
      (.symbol SpecialForm.binding.name :: .list (before ++ binding :: after) :: body)
      (.mismatch (.badBinding binding) []) w₁
  /-- What is to name the procedure is no string. -/
  | callee {form : Form} {arguments : List Form} {v : Value} {e : Error} {w₁ : World} :
    (∀ name, form ≠ .symbol name) → (eval form scope).outcome w = (.ok v, w₁) →
    v.asString = .error e →
    Fails scope w (.symbol SpecialForm.call.name :: form :: arguments) e w₁

/-- The call of a procedure on the level `depth`, from the world `w` on, comes to a statement in the
    scope of the call and another world, after the statements before it. -/
inductive Executes (depth : Nat) (w : World) :
    (name : String) → List Value → Form → Scope → World → Prop
  | statement {p : Procedure} {name : String} {arguments : List Value} {before after : List Form}
      {form : Form} {v : Value} {w₁ : World} :
    program.find? name = some p →
    p.parameters = [] ∨ arguments.length ≤ p.parameters.length →
    p.body = before ++ form :: after →
    (do Run.log (.calling name depth)
        sequence eval (Scope.ofCall p.parameters arguments) before).outcome w = (.ok v, w₁) →
    Executes depth w name arguments form (Scope.ofCall p.parameters arguments) w₁

/-- The call of a procedure raises an error itself, before any statement. -/
inductive Refuses : (name : String) → List Value → Error → Prop
  | missing {name : String} {arguments : List Value} : program.find? name = none →
    Refuses name arguments (.procedureNotFound name)
  | surplus {p : Procedure} {name : String} {arguments : List Value} :
    program.find? name = some p → p.parameters ≠ [] → p.parameters.length < arguments.length →
    Refuses name arguments (.arity name (.between 0 p.parameters.length) arguments.length)

end Level

/-! ## A list fails where it or its task fails -/

section Level

variable {program : Program} {eval : Form → Scope → Run Value}
  {call : String → List Value → Run Value} {scope : Scope} {w w' : World} {e : Error}

theorem sequence_eq_error_iff {forms : List Form} :
    (sequence eval scope forms).outcome w = (.error e, w') ↔
      ∃ before form after v w₁, forms = before ++ form :: after ∧
        (sequence eval scope before).outcome w = (.ok v, w₁) ∧
        (eval form scope).outcome w₁ = (.error e, w') :=
  Run.outcome_foldlM_eq_error_iff

theorem bindOne_eq_error_iff {binding : Form} :
    (bindOne eval scope binding).outcome w = (.error e, w') ↔
      (∃ name form, binding = .list [.symbol name, form] ∧
        (eval form scope).outcome w = (.error e, w')) ∨
      (∀ name form, binding ≠ .list [.symbol name, form]) ∧
        e = .mismatch (.badBinding binding) [] ∧ w' = w := by
  unfold bindOne
  split
  case h_1 name form =>
    rw [Run.outcome_bind_eq_error_iff]
    simp
  case h_2 hshape =>
    simp only [Run.outcome_throw, Prod.mk.injEq, Except.error.injEq]
    constructor
    · rintro ⟨rfl, rfl⟩
      exact .inr ⟨hshape, rfl, rfl⟩
    · rintro (⟨name, form, rfl, -⟩ | ⟨-, rfl, rfl⟩)
      · exact absurd rfl (hshape name form)
      · exact ⟨rfl, rfl⟩

/-- What is no symbol names a procedure by its value. -/
theorem calleeName_of_ne_symbol {callee : Form} (h : ∀ name, callee ≠ .symbol name) :
    calleeName eval scope callee =
      (eval callee scope >>= fun v => Run.ofExcept v.asString) := by
  unfold calleeName
  split
  case h_1 name => exact absurd rfl (h name)
  case h_2 => rfl

theorem functionArguments_path {f : Function} (h : f.takesPath) (path : String)
    (rest : List Form) :
    functionArguments eval f scope (.symbol path :: rest) =
      (rest.mapM (eval · scope) >>= fun values => pure (.text path :: values)) := by
  simp only [functionArguments, h]

/-- Without a path in front, every argument is evaluated. -/
theorem functionArguments_eq_mapM {f : Function} {arguments : List Form}
    (h : ¬(f.takesPath ∧ ∃ path rest, arguments = .symbol path :: rest)) :
    functionArguments eval f scope arguments = arguments.mapM (eval · scope) := by
  unfold functionArguments
  split
  case h_1 path rest hf => exact absurd ⟨hf, path, rest, rfl⟩ h
  case h_2 => rfl

theorem functionArguments_eq_error_iff {f : Function} {arguments : List Form} :
    (functionArguments eval f scope arguments).outcome w = (.error e, w') ↔
      ∃ before form after values w₁, arguments = before ++ form :: after ∧
        (functionArguments eval f scope before).outcome w = (.ok values, w₁) ∧
        ¬(f.takesPath ∧ before = [] ∧ ∃ path, form = .symbol path) ∧
        (eval form scope).outcome w₁ = (.error e, w') := by
  by_cases hpath : f.takesPath ∧ ∃ path rest, arguments = .symbol path :: rest
  · obtain ⟨hf, path, rest, rfl⟩ := hpath
    rw [functionArguments_path hf, Run.outcome_bind_eq_error_iff, Run.outcome_mapM_eq_error_iff]
    constructor
    · rintro (⟨before, form, after, values, w₁, rfl, hbefore, hform⟩ | ⟨_, _, _, hpure⟩)
      · refine ⟨.symbol path :: before, form, after, .text path :: values, w₁, rfl, ?_, by simp,
          hform⟩
        rw [functionArguments_path hf, Run.outcome_bind_ok hbefore, Run.outcome_pure]
      · cases hpure
    · rintro ⟨_ | ⟨_, before⟩, form, after, values, w₁, hsplit, hbefore, hnot, hform⟩
      · cases hsplit
        exact absurd ⟨hf, rfl, path, rfl⟩ hnot
      · cases hsplit
        rw [functionArguments_path hf, Run.outcome_bind_eq_ok_iff] at hbefore
        obtain ⟨values, w₂, hbefore, hpure⟩ := hbefore
        cases hpure
        exact .inl ⟨before, form, after, values, w₁, rfl, hbefore, hform⟩
  · rw [functionArguments_eq_mapM hpath, Run.outcome_mapM_eq_error_iff]
    -- no more has what stands before an argument a path in front
    have heval {before : List Form} {form : Form} {after : List Form}
        (h : arguments = before ++ form :: after) :
        functionArguments eval f scope before = before.mapM (eval · scope) := by
      refine functionArguments_eq_mapM ?_
      rintro ⟨hf, path, rest, rfl⟩
      exact hpath ⟨hf, path, rest ++ form :: after, h⟩
    constructor
    · rintro ⟨before, form, after, values, w₁, h, hbefore, hform⟩
      refine ⟨before, form, after, values, w₁, h, by rw [heval h, hbefore], ?_, hform⟩
      rintro ⟨hf, rfl, path, rfl⟩
      exact hpath ⟨hf, path, after, h⟩
    · rintro ⟨before, form, after, values, w₁, h, hbefore, -, hform⟩
      rw [heval h] at hbefore
      exact ⟨before, form, after, values, w₁, h, hbefore, hform⟩

variable (program eval call scope w) in
/-- Evaluating a list of these elements raises an error itself, or comes to a task that fails. -/
def FailsAt (items : List Form) (e : Error) (w' : World) : Prop :=
  Fails eval scope w items e w' ∨
    ∃ task w₁, Reaches program eval scope w items task w₁ ∧
      (runTask eval call task).outcome w₁ = (.error e, w')

/-- A condition comes with one or two branches. -/
theorem choice_shapes {arguments : List Form}
    (h : SpecialForm.choice.arity.accepts arguments.length) :
    (∃ condition whenTrue, arguments = [condition, whenTrue]) ∨
      ∃ condition whenTrue whenFalse, arguments = [condition, whenTrue, whenFalse] := by
  have hlength : arguments.length = 2 ∨ arguments.length = 3 := by
    simp only [SpecialForm.arity, Arity.accepts, Bool.and_eq_true, decide_eq_true_eq] at h
    omega
  exact hlength.imp List.length_eq_two.1 List.length_eq_three.1

theorem failsAt_of_choice {arguments : List Form}
    (harity : SpecialForm.choice.arity.accepts arguments.length)
    (h : (choice eval scope arguments).outcome w = (.error e, w')) :
    FailsAt program eval call scope w (.symbol SpecialForm.choice.name :: arguments) e w' := by
  obtain ⟨condition, whenTrue, rfl⟩ | ⟨condition, whenTrue, whenFalse, rfl⟩ := choice_shapes harity
  · obtain hcondition | ⟨v, w₁, hcondition, h⟩ := Run.outcome_bind_eq_error_iff.1 h
    · exact .inr ⟨_, w, .condition harity, hcondition⟩
    · split at h
      case isTrue hv => exact .inr ⟨_, w₁, .whenTrue harity hcondition hv, h⟩
      case isFalse => cases h
  · obtain hcondition | ⟨v, w₁, hcondition, h⟩ := Run.outcome_bind_eq_error_iff.1 h
    · exact .inr ⟨_, w, .condition harity, hcondition⟩
    · split at h
      case isTrue hv => exact .inr ⟨_, w₁, .whenTrue harity hcondition hv, h⟩
      case isFalse hv => exact .inr ⟨_, w₁, .whenFalse hcondition (by simpa using hv), h⟩

theorem failsAt_of_binding {arguments : List Form}
    (harity : SpecialForm.binding.arity.accepts arguments.length)
    (h : (binding eval scope arguments).outcome w = (.error e, w')) :
    FailsAt program eval call scope w (.symbol SpecialForm.binding.name :: arguments) e w' := by
  unfold binding at h
  split at h
  case h_1 bindings body =>
    obtain h | ⟨inner, w₁, hbindings, h⟩ := Run.outcome_bind_eq_error_iff.1 h
    · obtain ⟨before, binding, after, inner, w₁, rfl, hbefore, h⟩ :=
        Run.outcome_foldlM_eq_error_iff.1 h
      obtain ⟨name, form, rfl, hform⟩ | ⟨hshape, rfl, rfl⟩ := bindOne_eq_error_iff.1 h
      · exact .inr ⟨_, w₁, .expression hbefore, hform⟩
      · exact .inl (.binding hbefore hshape)
    · obtain ⟨before, form, after, v, w₂, rfl, hbefore, h⟩ := sequence_eq_error_iff.1 h
      exact .inr ⟨_, w₂, .body hbindings hbefore, h⟩
  case h_2 form body hnot =>
    cases h
    exact .inl (.bindings fun bindings hlist => hnot bindings hlist)
  case h_3 => simp [SpecialForm.arity, Arity.accepts] at harity

theorem failsAt_of_callForm {arguments : List Form}
    (harity : SpecialForm.call.arity.accepts arguments.length)
    (h : (callForm program eval call scope arguments).outcome w = (.error e, w')) :
    FailsAt program eval call scope w (.symbol SpecialForm.call.name :: arguments) e w' := by
  rcases arguments with _ | ⟨callee, arguments⟩
  · simp [SpecialForm.arity, Arity.accepts] at harity
  obtain h | ⟨name, w₁, hname, h⟩ := Run.outcome_bind_eq_error_iff.1 h
  · -- a symbol would have named the procedure
    have hcallee : ∀ name, callee ≠ .symbol name := by
      rintro name rfl
      cases h
    rw [calleeName_of_ne_symbol hcallee] at h
    obtain h | ⟨v, w₁, hv, h⟩ := Run.outcome_bind_eq_error_iff.1 h
    · exact .inr ⟨_, w, .callee hcallee, h⟩
    · obtain ⟨he, rfl⟩ := Prod.mk.inj ((Run.outcome_ofExcept _ _).symm.trans h)
      exact .inl (.callee hcallee hv he)
  · split at h
    case isTrue hdefined =>
      obtain h | ⟨values, w₂, hvalues, h⟩ := Run.outcome_bind_eq_error_iff.1 h
      · obtain ⟨before, form, after, values, w₂, rfl, hbefore, h⟩ :=
          Run.outcome_mapM_eq_error_iff.1 h
        exact .inr ⟨_, w₂, .given hname hdefined hbefore, h⟩
      · exact .inr ⟨_, w₂, .procedure hname hdefined hvalues, h⟩
    case isFalse => cases h

theorem failsAt_of_applySpecial {form : SpecialForm} {arguments : List Form}
    (harity : form.arity.accepts arguments.length)
    (h : (applySpecial program eval call form scope arguments).outcome w = (.error e, w')) :
    FailsAt program eval call scope w (.symbol form.name :: arguments) e w' := by
  rcases form with _ | _ | _ | _
  case sequence =>
    obtain ⟨before, form, after, v, w₁, rfl, hbefore, h⟩ := sequence_eq_error_iff.1 h
    exact .inr ⟨_, w₁, .part hbefore, h⟩
  case choice => exact failsAt_of_choice harity h
  case binding => exact failsAt_of_binding harity h
  case call => exact failsAt_of_callForm harity h

theorem failsAt_of_applyPrimitive {p : Primitive} {arguments : List Form}
    (h : (applyPrimitive program eval call p scope arguments).outcome w = (.error e, w')) :
    FailsAt program eval call scope w (.symbol p.name :: arguments) e w' := by
  unfold applyPrimitive at h
  by_cases harity : p.arity.accepts arguments.length
  · rw [check_of_accepts harity] at h
    rcases p with form | f
    · exact failsAt_of_applySpecial harity h
    · have hf : (functionArguments eval f scope arguments >>= f.apply scope).outcome w =
          (.error e, w') := h
      obtain h | ⟨values, w₁, hvalues, h⟩ := Run.outcome_bind_eq_error_iff.1 hf
      · obtain ⟨before, form, after, values, w₁, rfl, hbefore, hnot, h⟩ :=
          functionArguments_eq_error_iff.1 h
        exact .inr ⟨_, w₁, .argument harity hbefore hnot, h⟩
      · exact .inl (.function harity hvalues h)
  · rw [Arity.check, if_neg harity] at h
    cases h
    exact .inl (.arity (Bool.eq_false_iff.2 harity))

/-- A list that fails raises the error itself, or comes to a task that fails. -/
theorem failsAt_of_applyList {items : List Form}
    (h : (applyList program eval call scope items).outcome w = (.error e, w')) :
    FailsAt program eval call scope w items e w' := by
  unfold applyList at h
  split at h
  case h_1 =>
    cases h
    exact .inl .empty
  case h_2 name arguments =>
    split at h
    case h_1 p hp =>
      obtain rfl := Primitive.name_of_ofName? hp
      exact failsAt_of_applyPrimitive h
    -- an operator that is no primitive is passed over
    case h_2 => cases h
  case h_3 head arguments hnot =>
    cases h
    exact .inl (.operator fun name hsymbol => hnot name hsymbol)

/-- A call of a procedure that is defined evaluates the arguments, and calls it. -/
theorem outcome_applyList_call {callee : Form} {arguments : List Form} {name : String} {w₁ : World}
    (hname : (calleeName eval scope callee).outcome w = (.ok name, w₁))
    (hdefined : program.defines name) :
    (applyList program eval call scope
      (.symbol SpecialForm.call.name :: callee :: arguments)).outcome w =
      (arguments.mapM (eval · scope) >>= call name).outcome w₁ := by
  rw [applyList_special .call (accepts_cons _ arguments)]
  refine (Run.outcome_bind_ok hname _).trans ?_
  rw [if_pos hdefined]

theorem Fails.applyList {items : List Form} (h : Fails eval scope w items e w') :
    (applyList program eval call scope items).outcome w = (.error e, w') := by
  cases h with
  | empty => rfl
  | @operator head arguments hhead =>
    rcases head with name | _ | _ | _
    case symbol => exact absurd rfl (hhead name)
    all_goals rfl
  | arity harity =>
    simp only [Evaluation.applyList, Primitive.ofName?_name, applyPrimitive, Arity.check, harity]
    rfl
  | function harity hvalues hf =>
    rw [applyList_function _ harity, Run.outcome_bind_ok hvalues, hf]
  | @bindings form body hform =>
    rw [applyList_special .binding (accepts_cons _ body)]
    rcases form with _ | _ | _ | bindings
    case list => exact absurd rfl (hform bindings)
    all_goals rfl
  | @binding before after body binding inner w₁ hbefore hshape =>
    rw [applyList_special .binding (accepts_cons _ body)]
    refine Run.outcome_bind_error (Run.outcome_foldlM_eq_error_iff.2 ?_) _
    exact ⟨before, binding, after, inner, w', rfl, hbefore,
      bindOne_eq_error_iff.2 (.inr ⟨hshape, rfl, rfl⟩)⟩
  | @callee form arguments v e w₁ hform hv he =>
    rw [applyList_special .call (accepts_cons _ arguments)]
    refine Run.outcome_bind_error ?_ _
    rw [calleeName_of_ne_symbol hform, Run.outcome_bind_ok hv, Run.outcome_ofExcept, he]

/-- A list fails with the task that it comes to. -/
theorem Reaches.applyList {items : List Form} {task : Task} {w₁ : World}
    (h : Reaches program eval scope w items task w₁)
    (htask : (runTask eval call task).outcome w₁ = (.error e, w')) :
    (applyList program eval call scope items).outcome w = (.error e, w') := by
  cases h with
  | argument harity hbefore hnot =>
    rw [applyList_function _ harity]
    refine Run.outcome_bind_error (functionArguments_eq_error_iff.2 ?_) _
    exact ⟨_, _, _, _, _, rfl, hbefore, hnot, htask⟩
  | part hbefore =>
    rw [applyList_special .sequence rfl]
    exact sequence_eq_error_iff.2 ⟨_, _, _, _, _, rfl, hbefore, htask⟩
  | condition harity =>
    rw [applyList_special .choice harity]
    obtain ⟨_, _, ⟨⟩⟩ | ⟨_, _, _, ⟨⟩⟩ := choice_shapes harity
    all_goals exact Run.outcome_bind_error htask _
  | whenTrue harity hcondition hv =>
    rw [applyList_special .choice harity]
    obtain ⟨_, _, ⟨⟩⟩ | ⟨_, _, _, ⟨⟩⟩ := choice_shapes harity
    all_goals
      refine (Run.outcome_bind_ok hcondition _).trans ?_
      rw [if_pos hv]
      exact htask
  | whenFalse hcondition hv =>
    rw [applyList_special .choice rfl]
    refine (Run.outcome_bind_ok hcondition _).trans ?_
    rw [hv]
    exact htask
  | @expression before after body name form inner w₁ hbefore =>
    rw [applyList_special .binding (accepts_cons _ body)]
    refine Run.outcome_bind_error (Run.outcome_foldlM_eq_error_iff.2 ?_) _
    exact ⟨before, _, after, inner, w₁, rfl, hbefore,
      bindOne_eq_error_iff.2 (.inl ⟨name, form, rfl, htask⟩)⟩
  | body hbindings hbefore =>
    rw [applyList_special .binding (accepts_cons _ _)]
    refine (Run.outcome_bind_ok hbindings _).trans ?_
    exact sequence_eq_error_iff.2 ⟨_, _, _, _, _, rfl, hbefore, htask⟩
  | @callee form arguments hform =>
    rw [applyList_special .call (accepts_cons _ arguments)]
    refine Run.outcome_bind_error ?_ _
    rw [calleeName_of_ne_symbol hform]
    exact Run.outcome_bind_error htask _
  | given hname hdefined hbefore =>
    rw [outcome_applyList_call hname hdefined]
    refine Run.outcome_bind_error (Run.outcome_mapM_eq_error_iff.2 ?_) _
    exact ⟨_, _, _, _, _, rfl, hbefore, htask⟩
  | procedure hname hdefined hvalues =>
    rw [outcome_applyList_call hname hdefined, Run.outcome_bind_ok hvalues]
    exact htask

/-! ## A procedure fails where it or a statement fails -/

variable {depth : Nat} {name : String} {arguments : List Value}

theorem Refuses.callProcedure (h : Refuses program name arguments e) :
    (callProcedure program eval depth name arguments).outcome w = (.error e, w) := by
  rcases h with hp | ⟨hp, hsome, hsurplus⟩
  case missing =>
    rw [Evaluation.callProcedure, Program.lookUp_of_none hp]
    rfl
  case surplus p =>
    have hrefused : (!p.parameters.isEmpty && p.parameters.length < arguments.length) := by
      simp [hsome, hsurplus]
    rw [Evaluation.callProcedure, Program.lookUp_of_some hp,
      Run.outcome_bind_ok (Run.outcome_ofExcept _ _), if_pos hrefused]
    rfl

theorem runBody_eq_error_iff {body : List Form} :
    (runBody eval name scope body).outcome w = (.error e, w') ↔
      ∃ root, (sequence eval scope body).outcome w = (.error root, w') ∧
        e = root.within (.executing name) := by
  rw [runBody_eq_sequence, Run.outcome_lastFlushed_eq_error_iff, Run.outcome_discard_eq_error_iff,
    Run.outcome_within_eq_error_iff]

theorem refuses_or_fits (program : Program) (name : String) (arguments : List Value) :
    (∃ e, Refuses program name arguments e) ∨
      ∃ p, program.find? name = some p ∧
        (p.parameters = [] ∨ arguments.length ≤ p.parameters.length) := by
  cases hp : program.find? name with
  | none => exact .inl ⟨_, .missing hp⟩
  | some p =>
    by_cases hfits : p.parameters = [] ∨ arguments.length ≤ p.parameters.length
    · exact .inr ⟨p, rfl, hfits⟩
    · rw [not_or, Nat.not_le] at hfits
      exact .inl ⟨_, .surplus hp hfits.1 hfits.2⟩

/-- The call of a procedure raises an error itself, or one of the statements fails, and the
    procedure is put on the trail. -/
theorem callProcedure_eq_error_iff :
    (callProcedure program eval depth name arguments).outcome w = (.error e, w') ↔
      (Refuses program name arguments e ∧ w' = w) ∨
      ∃ form inner w₁ root, Executes program eval depth w name arguments form inner w₁ ∧
        (eval form inner).outcome w₁ = (.error root, w') ∧ e = root.within (.executing name) := by
  constructor
  · intro h
    obtain ⟨e₀, hrefuses⟩ | ⟨p, hp, hfits⟩ := refuses_or_fits program name arguments
    · rw [hrefuses.callProcedure] at h
      cases h
      exact .inl ⟨hrefuses, rfl⟩
    · rw [callProcedure_of_fits hp hfits, Run.outcome_bind_ok (Run.outcome_log _ _),
        runBody_eq_error_iff] at h
      obtain ⟨root, hroot, rfl⟩ := h
      obtain ⟨before, form, after, v, w₁, hbody, hbefore, hroot⟩ := sequence_eq_error_iff.1 hroot
      refine .inr ⟨form, _, w₁, root, .statement (v := v) hp hfits hbody ?_, hroot, rfl⟩
      rw [Run.outcome_bind_ok (Run.outcome_log _ _), hbefore]
  · rintro (⟨hrefuses, rfl⟩ | ⟨form, inner, w₁, root, hexecutes, hroot, rfl⟩)
    · exact hrefuses.callProcedure
    · rcases hexecutes with ⟨hp, hfits, hbody, hbefore⟩
      rw [callProcedure_of_fits hp hfits, Run.outcome_bind_ok (Run.outcome_log _ _),
        runBody_eq_error_iff]
      rw [Run.outcome_bind_ok (Run.outcome_log _ _)] at hbefore
      exact ⟨root, sequence_eq_error_iff.2 ⟨_, form, _, _, w₁, hbody, hbefore, hroot⟩, rfl⟩

end Level

end Evaluation

end TurnScript
