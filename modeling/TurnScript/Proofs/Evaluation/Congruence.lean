import TurnScript.Evaluation
import TurnScript.Proofs.Error
import TurnScript.Proofs.Run

/-!
# Congruences of runs

Evaluation puts runs together from a few actions on the world: it reads the store, logs, emits,
flushes and writes. An `ActionCongruence` is a relation between runs that holds of these actions and
is kept when one follows another, which is all that the functions do; a `Congruence` is kept by
every way of putting runs together. They may allow some log records, some errors, and writes at some
paths only.

What evaluation does on one level is a function of what it does on the next, so a congruence that
holds between two ways of evaluating the operands of a list, and of calling the procedure that it
names, holds between the two evaluations of the list (`applyList`), and likewise for the body of a
procedure (`callProcedure`). Every statement about all evaluations is an instance, with an induction
on the levels around it.
-/

namespace TurnScript

/-! ## What a list evaluates and calls -/

namespace Form

/-- The forms that evaluating a list of these elements may evaluate on the next level: the
    arguments, but of a `LET` the expressions of the bindings and the body. -/
inductive IsOperand : (items : List Form) → Form → Prop
  | argument {operator : String} {arguments : List Form} {form : Form} :
    operator ≠ SpecialForm.binding.name → form ∈ arguments →
    IsOperand (.symbol operator :: arguments) form
  | expression {name : String} {bindings body : List Form} {form : Form} :
    .list [.symbol name, form] ∈ bindings →
    IsOperand (.symbol SpecialForm.binding.name :: .list bindings :: body) form
  | body {bindings body : List Form} {form : Form} : form ∈ body →
    IsOperand (.symbol SpecialForm.binding.name :: .list bindings :: body) form

/-- The form may name this procedure in a call, or this path: a symbol or a text names the one that
    is written. -/
def MayName : Form → String → Prop
  | .symbol literal, name | .text literal, name => name = literal
  | .number _, _ | .list _, _ => True

/-- A list of these elements is a call in which the form `callee` may name this procedure. -/
def IsCallOf (items : List Form) (callee : Form) (name : String) : Prop :=
  (∃ arguments, items = .symbol SpecialForm.call.name :: callee :: arguments) ∧ callee.MayName name

/-- A list of these elements is a write in which the form `target` may name this path. -/
def IsWriteOf (items : List Form) (target : Form) (path : String) : Prop :=
  (∃ arguments, items = .symbol Function.setState.name :: target :: arguments) ∧ target.MayName path

end Form

/-- The operator that a name finds has that name. -/
theorem Primitive.name_of_ofName? {name : String} {p : Primitive} (h : ofName? name = some p) :
    p.name = name := by
  simpa using List.find?_some h

/-- Only `LET` has the name of `LET`. -/
theorem Primitive.eq_binding_of_name {p : Primitive} (h : p.name = SpecialForm.binding.name) :
    p = .special .binding := by
  revert h
  rcases p with f | f <;> cases f <;> decide

/-- A relation between runs that holds of the actions on the world, and is kept when one run follows
    another. The runs log the given records, raise the given errors and write at the given paths
    only. -/
structure ActionCongruence (records : LogRecord → Prop) (errors : Error → Prop)
    (paths : String → Prop) where
  /-- The relation. -/
  Holds : {α : Type} → Run α → Run α → Prop
  /-- What a procedure acknowledges may always be logged. -/
  acknowledged : ∀ tag message category, records (.acknowledged tag message category)
  /-- The errors of operations may always be raised. -/
  operational : ∀ e : Error, e.IsOperational → errors e
  pure : ∀ {α : Type} (a : α), Holds (pure a) (pure a)
  throw : ∀ {α : Type} {e : Error}, errors e → Holds (throw e : Run α) (throw e)
  bind : ∀ {α β : Type} {m m' : Run α} {f f' : α → Run β}, Holds m m' →
    (∀ a, m.Yields a → Holds (f a) (f' a)) → Holds (m >>= f) (m' >>= f')
  /-- What is read of the store leaves the world as it is. -/
  reading : ∀ {α : Type} {f : Store → Except Error α}, (∀ store, Operational (f store)) →
    Holds (do Run.ofExcept (f (← get).store)) (do Run.ofExcept (f (← get).store))
  log : ∀ {record : LogRecord}, records record → Holds (Run.log record) (Run.log record)
  emit : ∀ entry : Output.Entry, Holds (Run.emit entry) (Run.emit entry)
  flush : Holds Run.flush Run.flush
  write : ∀ {path : String}, paths path → ∀ v : Value, Holds (Run.write path v) (Run.write path v)

/-- A relation that is kept by every way in which evaluation puts runs together: also by a step on
    the trail of their errors, and by what a call does with the statements of its procedure. -/
structure Congruence (records : LogRecord → Prop) (errors : Error → Prop)
    (paths : String → Prop) extends ActionCongruence records errors paths where
  /-- That a procedure is called may always be logged. -/
  calling : ∀ name depth, records (.calling name depth)
  within : ∀ {α : Type} (step : TrailStep) {m m' : Run α}, Holds m m' →
    Holds (Run.within step m) (Run.within step m')
  lastFlushed : ∀ {m m' : Run PUnit}, Holds m m' → Holds (Run.lastFlushed m) (Run.lastFlushed m')

namespace ActionCongruence

variable {records : LogRecord → Prop} {errors : Error → Prop} {paths : String → Prop}
  (R : ActionCongruence records errors paths) {α β : Type}

/-! ## Putting runs together -/

theorem ofExcept {x : Except Error α} (hx : Operational x) :
    R.Holds (Run.ofExcept x) (Run.ofExcept x) := by
  cases x with
  | ok a => exact R.pure a
  | error e => exact R.throw (R.operational e (hx e rfl))

theorem read (path : String) : R.Holds (Run.read path) (Run.read path) :=
  R.reading fun store => .storeGet path store

theorem discard {m m' : Run α} (h : R.Holds m m') : R.Holds (discard m) (discard m') :=
  R.bind h fun _ _ => R.pure _

theorem mapM {f f' : α → Run β} {as : List α} (h : ∀ a ∈ as, R.Holds (f a) (f' a)) :
    R.Holds (as.mapM f) (as.mapM f') := by
  induction as with
  | nil => exact R.pure []
  | cons a as ih =>
    rw [List.mapM_cons, List.mapM_cons]
    exact R.bind (h a List.mem_cons_self) fun b _ =>
      R.bind (ih fun a ha => h a (List.mem_cons_of_mem _ ha)) fun bs _ => R.pure (b :: bs)

theorem foldlM {f f' : β → α → Run β} {as : List α} (h : ∀ a ∈ as, ∀ b, R.Holds (f b a) (f' b a))
    (b : β) : R.Holds (as.foldlM f b) (as.foldlM f' b) := by
  induction as generalizing b with
  | nil => exact R.pure b
  | cons a as ih =>
    rw [List.foldlM_cons, List.foldlM_cons]
    exact R.bind (h a List.mem_cons_self b) fun c _ =>
      ih (fun a ha => h a (List.mem_cons_of_mem _ ha)) c

theorem forM {f f' : α → Run PUnit} {as : List α} (h : ∀ a ∈ as, R.Holds (f a) (f' a)) :
    R.Holds (as.forM f) (as.forM f') := by
  induction as with
  | nil => exact R.pure _
  | cons a as ih =>
    exact R.bind (h a List.mem_cons_self) fun _ _ => ih fun a ha => h a (List.mem_cons_of_mem _ ha)

/-! ## Functions -/

/-- What is a string for an operation is a text. -/
theorem eq_text_of_yields {operation what s : String} {v : Value}
    (h : (Run.ofExcept (v.stringFor operation what)).Yields s) : v = .text s := by
  cases v with
  | text t => rw [Run.yields_pure_iff.1 h]
  | absent => exact absurd h Run.not_yields_throw
  | bool b => exact absurd h Run.not_yields_throw
  | number n => exact absurd h Run.not_yields_throw
  | list vs => exact absurd h Run.not_yields_throw
  | map entries => exact absurd h Run.not_yields_throw

theorem stateAt (path : String) (scope : Scope) :
    R.Holds (Function.stateAt path scope) (Function.stateAt path scope) := by
  unfold Function.stateAt
  split
  · exact R.pure _
  · exact R.read path

theorem report (tag message category content : String) :
    R.Holds (Function.report tag message category content)
      (Function.report tag message category content) :=
  R.bind (R.log (R.acknowledged tag message category)) fun _ _ =>
    R.bind (R.emit _) fun _ _ => R.pure _

/-- The functions are put together from the actions. -/
theorem apply (f : Function) (scope : Scope) (arguments : List Value)
    (hwrite : ∀ path v, f = .setState → arguments = [.text path, v] → paths path) :
    R.Holds (f.apply scope arguments) (f.apply scope arguments) := by
  simp only [Function.apply]
  split
  case h_1 target v =>
    refine R.bind (R.ofExcept (.stringFor _ _ target)) fun path hpath => ?_
    rw [eq_text_of_yields hpath] at hwrite
    exact R.bind (R.write (hwrite path v rfl rfl) v) fun _ _ => R.pure _
  case h_2 path =>
    exact R.bind (R.ofExcept (.stringFor _ _ path)) fun path _ => R.stateAt path scope
  case h_3 key =>
    exact R.bind (R.ofExcept (.stringFor _ _ key)) fun key _ => R.ofExcept (.member key _)
  case h_4 m key =>
    exact R.bind (R.ofExcept (.stringFor _ _ key)) fun key _ => R.ofExcept (.member key m)
  case h_5 items index =>
    exact R.ofExcept (.bind (.asNumber index) fun index => .itemAt items index)
  case h_7 tag message _ =>
    exact R.bind (R.ofExcept (.textFor _ _ tag)) fun tag _ =>
      R.bind (R.ofExcept (.textFor _ _ message)) fun message _ =>
        R.bind (R.emit _) fun _ _ => R.pure _
  case h_8 => exact R.bind R.flush fun _ _ => R.pure _
  case h_9 =>
    refine R.bind (R.ofExcept (.numberedTexts _ arguments)) fun texts _ => ?_
    split
    · exact R.report _ _ _ _
    · exact R.report _ _ _ _
    · exact R.throw (R.operational _ trivial)
  case h_10 =>
    exact R.bind (R.ofExcept (.mapM (fun v => .textFor _ _ v) arguments)) fun _ _ => R.pure _
  case h_11 a b => exact R.pure _
  -- what is left are wrong numbers of arguments, and a list that is none
  all_goals exact R.throw (R.operational _ trivial)

end ActionCongruence

namespace Congruence

variable {records : LogRecord → Prop} {errors : Error → Prop} {paths : String → Prop}
  (R : Congruence records errors paths)

/-! ## One level of evaluation -/

open Evaluation Form

variable {program : Program} {eval eval' : Form → Scope → Run Value}
  {call call' : String → List Value → Run Value} {scope : Scope}

theorem sequence {forms : List Form}
    (heval : ∀ form ∈ forms, ∀ scope, R.Holds (eval form scope) (eval' form scope)) :
    R.Holds (sequence eval scope forms) (sequence eval' scope forms) :=
  R.foldlM (fun form hform _ => heval form hform scope) .absent

theorem choice {arguments : List Form}
    (heval : ∀ form ∈ arguments, ∀ scope, R.Holds (eval form scope) (eval' form scope)) :
    R.Holds (choice eval scope arguments) (choice eval' scope arguments) := by
  unfold Evaluation.choice
  split
  case h_1 condition whenTrue =>
    refine R.bind (heval condition (by simp) scope) fun v _ => ?_
    split
    · exact heval whenTrue (by simp) scope
    · exact R.pure _
  case h_2 condition whenTrue whenFalse =>
    refine R.bind (heval condition (by simp) scope) fun v _ => ?_
    split
    · exact heval whenTrue (by simp) scope
    · exact heval whenFalse (by simp) scope
  case h_3 => exact R.throw (R.operational _ trivial)

theorem bindOne {binding : Form}
    (heval : ∀ name form, binding = .list [.symbol name, form] →
      ∀ scope, R.Holds (eval form scope) (eval' form scope)) :
    R.Holds (bindOne eval scope binding) (bindOne eval' scope binding) := by
  unfold Evaluation.bindOne
  split
  · exact R.bind (heval _ _ rfl scope) fun _ _ => R.pure _
  · exact R.throw (R.operational _ trivial)

theorem binding {arguments : List Form}
    (heval : ∀ form, IsOperand (.symbol SpecialForm.binding.name :: arguments) form →
      ∀ scope, R.Holds (eval form scope) (eval' form scope)) :
    R.Holds (binding eval scope arguments) (binding eval' scope arguments) := by
  unfold Evaluation.binding
  split
  · -- each expression is evaluated in the scope of the bindings before it
    refine R.bind (R.foldlM (fun binding hbinding scope => R.bindOne fun name form heq => ?_) scope)
      fun inner _ => R.sequence fun form hform => heval form (.body hform)
    exact heval form (.expression (heq ▸ hbinding))
  · exact R.throw (R.operational _ trivial)
  · exact R.throw (R.operational _ trivial)

theorem calleeName {callee : Form}
    (heval : ∀ scope, R.Holds (eval callee scope) (eval' callee scope)) :
    R.Holds (calleeName eval scope callee) (calleeName eval' scope callee) := by
  unfold Evaluation.calleeName
  split
  · exact R.pure _
  · exact R.bind (heval scope) fun v _ => R.ofExcept (.asString v)

/-- A text has no other value than itself. -/
def EvaluatesTexts (eval : Form → Scope → Run Value) : Prop :=
  ∀ content scope v, (eval (.text content) scope).Yields v → v = .text content

/-- A callee that is written literally is called by that name. -/
theorem mayName_of_yields {callee : Form} {name : String} (htexts : EvaluatesTexts eval)
    (h : (Evaluation.calleeName eval scope callee).Yields name) : callee.MayName name := by
  cases callee with
  | symbol literal => exact Run.yields_pure_iff.1 h
  | text literal =>
    obtain ⟨v, hv, hname⟩ := Run.Yields.of_bind h
    rw [htexts literal scope v hv] at hname
    exact Run.yields_pure_iff.1 hname
  | number => trivial
  | list => trivial

theorem passOver {name : String} (hrecord : records (.unknownPrimitive name)) :
    R.Holds (passOver name) (passOver name) :=
  R.bind (R.log hrecord) fun _ _ => R.bind (R.emit _) fun _ _ => R.pure _

theorem passOverCall {name : String} {callee : Form}
    (hrecord : records (.undefinedCallee name callee)) :
    R.Holds (passOverCall name callee) (passOverCall name callee) :=
  R.bind (R.log hrecord) fun _ _ => R.bind (R.emit _) fun _ _ => R.pure _

theorem callForm {arguments : List Form} (htexts : EvaluatesTexts eval)
    (heval : ∀ form ∈ arguments, ∀ scope, R.Holds (eval form scope) (eval' form scope))
    (hcall : ∀ callee name values,
      IsCallOf (.symbol SpecialForm.call.name :: arguments) callee name → program.defines name →
      R.Holds (call name values) (call' name values))
    (hmissing : ∀ callee name,
      IsCallOf (.symbol SpecialForm.call.name :: arguments) callee name →
      program.defines name = false → records (.undefinedCallee name callee)) :
    R.Holds (callForm program eval call scope arguments)
      (callForm program eval' call' scope arguments) := by
  cases arguments with
  | nil => exact R.throw (R.operational _ trivial)
  | cons callee arguments =>
    refine R.bind (R.calleeName (heval callee List.mem_cons_self)) fun name hname => ?_
    have hcallee : IsCallOf (.symbol SpecialForm.call.name :: callee :: arguments) callee name :=
      ⟨⟨arguments, rfl⟩, mayName_of_yields htexts hname⟩
    -- the arguments are evaluated only if the procedure is defined
    cases hdefined : program.defines name with
    | false => exact R.passOverCall (hmissing callee name hcallee hdefined)
    | true =>
      exact R.bind (R.mapM fun form hform => heval form (List.mem_cons_of_mem _ hform) scope)
        fun values _ => hcall callee name values hcallee hdefined

theorem functionArguments {f : Function} {arguments : List Form}
    (heval : ∀ form ∈ arguments, ∀ scope, R.Holds (eval form scope) (eval' form scope)) :
    R.Holds (functionArguments eval f scope arguments)
      (functionArguments eval' f scope arguments) := by
  unfold Evaluation.functionArguments
  split
  · exact R.bind (R.mapM fun form hform => heval form (List.mem_cons_of_mem _ hform) scope)
      fun _ _ => R.pure _
  · exact R.mapM fun form hform => heval form hform scope

/-- What is given to a write as its path is named by its first argument. -/
theorem mayName_of_functionArguments {target : Form} {arguments : List Form} {path : String}
    {values : List Value} (htexts : EvaluatesTexts eval)
    (h : (Evaluation.functionArguments eval .setState scope (target :: arguments)).Yields
      (.text path :: values)) : target.MayName path := by
  cases target with
  | symbol literal =>
    obtain ⟨rest, -, hrest⟩ := Run.Yields.of_bind h
    have hvalues := Run.yields_pure_iff.1 hrest
    cases hvalues
    rfl
  | text literal =>
    change ((Form.text literal :: arguments).mapM (eval · scope)).Yields _ at h
    rw [List.mapM_cons] at h
    obtain ⟨v, hv, h⟩ := Run.Yields.of_bind h
    obtain ⟨rest, -, hrest⟩ := Run.Yields.of_bind h
    have hvalues := Run.yields_pure_iff.1 hrest
    rw [htexts literal scope v hv] at hvalues
    cases hvalues
    rfl
  | number => trivial
  | list => trivial

/-- A list is evaluated alike by evaluations and calls of the next level that are alike. -/
theorem applyList {items : List Form} (htexts : EvaluatesTexts eval)
    (heval : ∀ form, IsOperand items form → ∀ scope, R.Holds (eval form scope) (eval' form scope))
    (hcall : ∀ callee name values, IsCallOf items callee name → program.defines name →
      R.Holds (call name values) (call' name values))
    (hmissing : ∀ callee name, IsCallOf items callee name → program.defines name = false →
      records (.undefinedCallee name callee))
    (hunknown : ∀ name arguments, items = .symbol name :: arguments →
      Primitive.ofName? name = none → records (.unknownPrimitive name))
    (hwrite : ∀ target path, IsWriteOf items target path → paths path) :
    R.Holds (applyList program eval call scope items)
      (applyList program eval' call' scope items) := by
  unfold Evaluation.applyList
  split
  case h_1 => exact R.throw (R.operational _ trivial)
  case h_3 => exact R.throw (R.operational _ trivial)
  case h_2 name arguments =>
    split
    case h_2 hnone => exact R.passOver (hunknown name arguments rfl hnone)
    case h_1 p hp =>
      have hname := Primitive.name_of_ofName? hp
      refine R.bind (R.ofExcept (.check p.arity p.name arguments.length)) fun _ _ => ?_
      -- every operator but `LET` evaluates no other forms than its arguments
      have harguments (hne : p ≠ .special .binding) :
          ∀ form ∈ arguments, ∀ scope, R.Holds (eval form scope) (eval' form scope) :=
        fun form hform => heval form
          (.argument (fun hlet => hne (Primitive.eq_binding_of_name (hname.trans hlet))) hform)
      match p with
      | .special .sequence => exact R.sequence (harguments (by decide))
      | .special .choice => exact R.choice (harguments (by decide))
      | .special .binding =>
        subst hname
        exact R.binding heval
      | .special .call =>
        subst hname
        exact R.callForm htexts (harguments (by decide)) hcall hmissing
      | .function f =>
        refine R.bind (R.functionArguments (harguments (by simp))) fun values hvalues =>
          R.apply f scope values fun path v hf hpath => ?_
        subst hf hname hpath
        cases arguments with
        | nil => exact absurd (Run.yields_pure_iff.1 hvalues) (by simp)
        | cons target arguments =>
          exact hwrite target path
            ⟨⟨arguments, rfl⟩, mayName_of_functionArguments htexts hvalues⟩

/-! ## Procedures -/

theorem runBody {name : String} {body : List Form}
    (heval : ∀ form ∈ body, ∀ scope, R.Holds (eval form scope) (eval' form scope)) :
    R.Holds (runBody eval name scope body) (runBody eval' name scope body) :=
  R.lastFlushed (R.forM fun form hform => R.discard (R.within _ (heval form hform scope)))

/-- A procedure is called alike if its statements are evaluated alike on the next level. -/
theorem callProcedure {depth : Nat} {name : String} {arguments : List Value}
    (heval : ∀ p, program.find? name = some p → ∀ form ∈ p.body,
      ∀ scope, R.Holds (eval form scope) (eval' form scope))
    (hmissing : program.find? name = none → errors (.procedureNotFound name)) :
    R.Holds (callProcedure program eval depth name arguments)
      (callProcedure program eval' depth name arguments) := by
  unfold Evaluation.callProcedure
  cases hp : program.find? name with
  | none =>
    rw [Program.lookUp_of_none hp]
    exact R.bind (R.throw (hmissing hp)) fun p hyields => absurd hyields Run.not_yields_throw
  | some p =>
    rw [Program.lookUp_of_some hp]
    refine R.bind (R.pure p) fun q hq => ?_
    rw [Run.yields_pure_iff.1 hq]
    split
    · exact R.bind (R.throw (R.operational _ trivial)) fun _ _ =>
        R.bind (R.log (R.calling name depth)) fun _ _ => R.runBody (heval p hp)
    · exact R.bind (R.log (R.calling name depth)) fun _ _ => R.runBody (heval p hp)

/-! ## The levels -/

/-- A form that is no list is evaluated alike on all levels. -/
theorem evalAt_succ {setting setting' : Setting} {levels levels' : Nat} {form : Form}
    (hlist : ∀ items, form = .list items →
      R.Holds (Evaluation.applyList setting.program (evalAt setting levels)
          (callAt setting levels) scope items)
        (Evaluation.applyList setting'.program (evalAt setting' levels')
          (callAt setting' levels') scope items)) :
    R.Holds (evalAt setting (levels + 1) form scope)
      (evalAt setting' (levels' + 1) form scope) := by
  cases form with
  | symbol name => exact R.reading fun store => .lookUp name scope store
  | text content => exact R.pure _
  | number n => exact R.pure _
  | list items => exact R.within _ (hlist items rfl)

/-- Texts are their own values, on every level. -/
theorem evaluatesTexts_evalAt (setting : Setting) (levels : Nat) :
    EvaluatesTexts (evalAt setting levels) := by
  intro content scope v h
  cases levels with
  | zero => exact absurd h Run.not_yields_throw
  | succ levels => exact Run.yields_pure_iff.1 h

end Congruence

end TurnScript
