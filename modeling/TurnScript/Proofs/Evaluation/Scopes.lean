import TurnScript.Evaluation
import TurnScript.Proofs.Keyed
import TurnScript.Proofs.Run

/-!
# What evaluation knows of a scope

Evaluation asks a scope for the meaning of a name and for the command context, and for nothing else.
So it does not matter how scopes are made: where two of them agree (`Scope.Agrees`), every form is
evaluated by the same run (`evalAt_eq_of_agrees`).

An interpreter need not keep every binding that was ever made. It may keep a chain of maps, one for
each scope, and bind a name again in place (`Frames`). A `LET` that is carried out on such a chain
is the `LET` that puts every binding in front of the earlier ones (`bindingInFrames_eq`).
-/

namespace TurnScript

/-! ## Scopes that agree -/

namespace Scope

/-- Every name means the same in both scopes, and the command context is the same. -/
structure Agrees (scope scope' : Scope) : Prop where
  find? : ∀ name, scope.find? name = scope'.find? name
  context : scope.context = scope'.context

namespace Agrees

variable {scope scope' : Scope}

theorem refl (scope : Scope) : scope.Agrees scope := ⟨fun _ => rfl, rfl⟩

theorem define (h : scope.Agrees scope') (name : String) (v : Value) :
    (scope.define name v).Agrees (scope'.define name v) := by
  refine ⟨fun other => ?_, h.context⟩
  by_cases heq : other = name
  · rw [heq, find?_define_self, find?_define_self]
  · rw [find?_define_of_ne heq, find?_define_of_ne heq, h.find?]

end Agrees

end Scope

/-! ## Runs with related results -/

/-- The runs do the same and have related results: whatever follows them, if it is the same after
    related results, they are the same in front of it. -/
def Run.SameUpTo {α β : Type} (related : α → β → Prop) (m : Run α) (m' : Run β) : Prop :=
  ∀ (γ : Type) (f : α → Run γ) (f' : β → Run γ), (∀ a b, related a b → f a = f' b) →
    m >>= f = m' >>= f'

namespace Run.SameUpTo

variable {α β γ : Type} {related : α → β → Prop}

theorem pure {a : α} {b : β} (h : related a b) : SameUpTo related (pure a) (pure b) := by
  intro _ f f' hf
  rw [pure_bind, pure_bind, hf a b h]

theorem throw (e : Error) : SameUpTo related (throw e) (throw e) := fun _ _ _ _ => rfl

theorem bind {m : Run γ} {f : γ → Run α} {f' : γ → Run β}
    (h : ∀ c, SameUpTo related (f c) (f' c)) : SameUpTo related (m >>= f) (m >>= f') := by
  intro _ g g' hg
  rw [bind_assoc, bind_assoc]
  exact congrArg (m >>= ·) (funext fun c => h c _ g g' hg)

/-- A loop keeps its states related if every step does. -/
theorem foldlM {f : α → γ → Run α} {f' : β → γ → Run β}
    (h : ∀ a b, related a b → ∀ c, SameUpTo related (f a c) (f' b c)) (cs : List γ) {a : α} {b : β}
    (hab : related a b) : SameUpTo related (cs.foldlM f a) (cs.foldlM f' b) := by
  induction cs generalizing a b with
  | nil => exact pure hab
  | cons c cs ih =>
    intro _ g g' hg
    rw [List.foldlM_cons, List.foldlM_cons, bind_assoc, bind_assoc]
    exact h a b hab c _ _ _ fun a b hab => ih hab _ g g' hg

end Run.SameUpTo

namespace Evaluation

/-! ## Evaluation in scopes that agree -/

section Level

variable {program : Program} {eval : Form → Scope → Run Value}
  {call : String → List Value → Run Value} {scope scope' : Scope}

theorem lookUp_eq_of_agrees (h : scope.Agrees scope') (name : String) (store : Store) :
    lookUp name scope store = lookUp name scope' store := by
  simp only [lookUp, h.find?]

theorem apply_eq_of_agrees (h : scope.Agrees scope') (f : Function) (arguments : List Value) :
    f.apply scope arguments = f.apply scope' arguments := by
  simp only [Function.apply, Function.stateAt, h.find?, h.context]

/-- The evaluation runs a form in the same way wherever scopes agree. -/
def RespectsScopes (eval : Form → Scope → Run Value) : Prop :=
  ∀ form {scope scope' : Scope}, scope.Agrees scope' → eval form scope = eval form scope'

namespace RespectsScopes

/-- A binding in scopes that agree makes scopes that agree. -/
theorem bindOne (heval : RespectsScopes eval) (h : scope.Agrees scope') (form : Form) :
    Run.SameUpTo Scope.Agrees (bindOne eval scope form) (bindOne eval scope' form) := by
  unfold Evaluation.bindOne
  split
  · rw [heval _ h]
    exact Run.SameUpTo.bind fun v => Run.SameUpTo.pure (h.define _ v)
  · exact Run.SameUpTo.throw _

theorem sequence (heval : RespectsScopes eval) (h : scope.Agrees scope') (forms : List Form) :
    sequence eval scope forms = sequence eval scope' forms := by
  simp only [Evaluation.sequence, heval _ h]

theorem choice (heval : RespectsScopes eval) (h : scope.Agrees scope') (arguments : List Form) :
    choice eval scope arguments = choice eval scope' arguments := by
  unfold Evaluation.choice
  split <;> simp only [heval _ h]

theorem binding (heval : RespectsScopes eval) (h : scope.Agrees scope') (arguments : List Form) :
    binding eval scope arguments = binding eval scope' arguments := by
  unfold Evaluation.binding
  split
  · exact Run.SameUpTo.foldlM (fun _ _ => heval.bindOne) _ h _ _ _ fun _ _ hinner =>
      heval.sequence hinner _
  · rfl
  · rfl

theorem callForm (heval : RespectsScopes eval) (h : scope.Agrees scope') (arguments : List Form) :
    callForm program eval call scope arguments = callForm program eval call scope' arguments := by
  have hname (callee : Form) : calleeName eval scope callee = calleeName eval scope' callee := by
    unfold calleeName
    split
    · rfl
    · rw [heval _ h]
  unfold Evaluation.callForm
  split
  · simp only [hname, heval _ h]
  · rfl

theorem functionArguments (heval : RespectsScopes eval) (h : scope.Agrees scope') (f : Function)
    (arguments : List Form) :
    functionArguments eval f scope arguments = functionArguments eval f scope' arguments := by
  unfold Evaluation.functionArguments
  split <;> simp only [heval _ h]

theorem applyPrimitive (heval : RespectsScopes eval) (h : scope.Agrees scope') (p : Primitive)
    (arguments : List Form) :
    applyPrimitive program eval call p scope arguments =
      applyPrimitive program eval call p scope' arguments := by
  unfold Evaluation.applyPrimitive
  cases p with
  | special form =>
    refine congrArg (Run.ofExcept _ >>= ·) (funext fun _ => ?_)
    cases form with
    | sequence => exact heval.sequence h arguments
    | choice => exact heval.choice h arguments
    | binding => exact heval.binding h arguments
    | call => exact heval.callForm h arguments
  | function f => simp only [heval.functionArguments h, apply_eq_of_agrees h]

theorem applyList (heval : RespectsScopes eval) (h : scope.Agrees scope') (items : List Form) :
    applyList program eval call scope items = applyList program eval call scope' items := by
  unfold Evaluation.applyList
  split
  · rfl
  · cases Primitive.ofName? _ with
    | none => rfl
    | some p => exact heval.applyPrimitive h p _
  · rfl

end RespectsScopes

end Level

/-- What a form is evaluated to, and what that does, depends on nothing in its scope but the meaning
    of names and the command context. -/
theorem evalAt_eq_of_agrees (setting : Setting) (levels : Nat) :
    RespectsScopes (evalAt setting levels) := by
  induction levels with
  | zero => exact fun _ _ _ _ => rfl
  | succ levels ih =>
    intro form scope scope' h
    cases form with
    | symbol name => simp only [evalAt, lookUp_eq_of_agrees h]
    | text content => rfl
    | number n => rfl
    | list items => rw [evalAt, evalAt, ih.applyList h]

end Evaluation

/-! ## Chains of maps -/

/-- A scope with a map of its own, and the maps of the scopes around it, the inner ones first. -/
structure Frames where
  inner : Keyed Value := []
  outer : List (Keyed Value) := []
  context : Value := .absent

namespace Frames

variable (frames : Frames)

/-- A new scope inside, in which nothing is bound yet. -/
def enter : Frames := { frames with inner := [], outer := frames.inner :: frames.outer }

/-- The inner scope binds `name` to `v`, instead of what it bound it to. -/
def define (name : String) (v : Value) : Frames :=
  { frames with inner := Keyed.insert name v frames.inner }

/-- What `name` means: what the innermost scope that binds it binds it to. -/
def find? (name : String) : Option Value :=
  (Keyed.find? name frames.inner).or (frames.outer.findSome? (Keyed.find? name))

/-- All bindings in one scope, the inner ones before the outer ones. -/
def scope : Scope :=
  { bindings := frames.inner ++ frames.outer.flatten, context := frames.context }

variable {frames}

theorem find?_scope (name : String) : frames.scope.find? name = frames.find? name := by
  have houter : Keyed.find? name frames.outer.flatten =
      frames.outer.findSome? (Keyed.find? name) := by
    induction frames.outer with
    | nil => rfl
    | cons m outer ih =>
      rw [List.flatten_cons, Keyed.find?_append, ih, List.findSome?_cons]
      cases Keyed.find? name m <;> rfl
  exact (Keyed.find?_append _ _ _).trans (by rw [houter, find?])

/-- A binding in place means what one more binding means. -/
theorem agrees_define {scope : Scope} (h : frames.scope.Agrees scope) (name : String) (v : Value) :
    (frames.define name v).scope.Agrees (scope.define name v) := by
  refine ⟨fun other => ?_, h.context⟩
  by_cases heq : other = name
  · rw [heq, Scope.find?_define_self, find?_scope, find?, define, Keyed.find?_insert_self]
    rfl
  · rw [Scope.find?_define_of_ne heq, ← h.find?, find?_scope, find?_scope, find?, define,
      Keyed.find?_insert_of_ne heq, find?]

end Frames

namespace Evaluation

section Level

variable (eval : Form → Scope → Run Value)

/-- One more binding in the inner scope, evaluated in it as it was before. -/
def bindOneInFrames (frames : Frames) : Form → Run Frames
  | .list [.symbol name, expression] => do
    return frames.define name (← eval expression frames.scope)
  | form => throw (.mismatch (.badBinding form) [])

/-- The forms in sequence in a new scope that is given the bindings in front. -/
def bindingInFrames (frames : Frames) : List Form → Run Value
  | .list bindings :: body => do
    let inner ← bindings.foldlM (bindOneInFrames eval) frames.enter
    sequence eval inner.scope body
  | form :: _ => throw (.mismatch (.bindingsNotList form) [])
  | [] => throw (.arity SpecialForm.binding.name SpecialForm.binding.arity 0)

variable {eval}

theorem bindOneInFrames_sameUpTo (heval : RespectsScopes eval) {frames : Frames} {scope : Scope}
    (h : frames.scope.Agrees scope) (form : Form) :
    Run.SameUpTo (fun frames => frames.scope.Agrees) (bindOneInFrames eval frames form)
      (bindOne eval scope form) := by
  unfold bindOneInFrames
  split
  · rw [bindOne, heval _ h]
    exact Run.SameUpTo.bind fun v => Run.SameUpTo.pure (Frames.agrees_define h _ v)
  case h_2 hform =>
    rw [bindOne]
    · exact Run.SameUpTo.throw _
    · exact hform

/-- A `LET` does the same on a chain of maps, binding names in place, as by adding one binding after
    the other in front of all the earlier ones. -/
theorem bindingInFrames_eq (heval : RespectsScopes eval) (frames : Frames)
    (arguments : List Form) :
    bindingInFrames eval frames arguments = binding eval frames.scope arguments := by
  -- the new scope adds nothing to the chain as long as nothing is bound in it
  have henter : frames.enter.scope.Agrees frames.scope := .refl frames.scope
  unfold bindingInFrames
  split
  · exact Run.SameUpTo.foldlM (fun _ _ => bindOneInFrames_sameUpTo heval) _ henter _ _ _
      fun _ _ hinner => heval.sequence hinner _
  case h_2 hbindings =>
    rw [binding]
    exact hbindings
  · rfl

end Level

end Evaluation

end TurnScript
