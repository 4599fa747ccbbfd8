import Mathlib.Data.List.Forall2
import TurnScript.Proofs.Evaluation.Congruence

/-!
# Rules of evaluation

How a given form is evaluated, one rule for each way in which a program can go on without an error.
A run leads from one world to another with a result (`Run.Leads`); what it adds to the journal is
left open, since no program can tell. So the rules say what a procedure does to the store and the
output, and the rule for a call (`callAt_leads`) takes over what was shown of its statements.
-/

namespace TurnScript

/-! ## Runs that succeed -/

/-- From the world `w` the run comes to the result `a` in the world `w'`, whatever the journals. -/
def Run.Leads {α : Type} (m : Run α) (w : World) (a : α) (w' : World) : Prop :=
  ∀ journal, ∃ journal', m.outcome { w with journal } = (.ok a, { w' with journal := journal' })

namespace World

/-- The world with one more entry of output. -/
def say (w : World) (tag message : String) : World :=
  { w with output := w.output.append ⟨tag, message⟩ }

/-- The world after a flush. -/
def flushed (w : World) : World :=
  { w with output := w.output.flush.2, chunks := w.chunks.push w.output.flush.1 }

end World

namespace Run.Leads

variable {α β : Type} {w w₁ w₂ : World} {m : Run α} {f : α → Run β} {a : α} {b : β}

theorem pure : (pure a : Run α).Leads w a w := fun _ => ⟨_, rfl⟩

theorem bind (hm : m.Leads w a w₁) (hf : (f a).Leads w₁ b w₂) : (m >>= f).Leads w b w₂ := by
  intro journal
  obtain ⟨journal₁, hm⟩ := hm journal
  obtain ⟨journal₂, hf⟩ := hf journal₁
  exact ⟨journal₂, by rw [outcome_bind_ok hm, hf]⟩

theorem ofExcept {x : Except Error α} (hx : x = .ok a) : (Run.ofExcept x).Leads w a w := by
  subst hx
  exact pure

theorem within {step : TrailStep} (hm : m.Leads w a w₁) : (Run.within step m).Leads w a w₁ := by
  intro journal
  obtain ⟨journal₁, hm⟩ := hm journal
  exact ⟨journal₁, by rw [outcome_within, hm]; rfl⟩

/-- What is done with the world as it is, without a look at the journal. -/
theorem bind_get {f : World → Run β} (hf : ∀ journal, (f { w with journal }).Leads w b w₁) :
    (get >>= f).Leads w b w₁ := by
  intro journal
  obtain ⟨journal₁, hf⟩ := hf journal journal
  exact ⟨journal₁, by rw [outcome_bind_ok (outcome_get _), hf]⟩

theorem log (record : LogRecord) : (Run.log record).Leads w () w := fun _ =>
  ⟨_, outcome_log record _⟩

theorem discard (hm : m.Leads w a w₁) : (discard m).Leads w () w₁ := hm.bind pure

theorem lastFlushed {m : Run PUnit} (hm : m.Leads w () w₁) :
    (Run.lastFlushed m).Leads w (w.lastChunk w₁) w₁ := by
  intro journal
  obtain ⟨journal₁, hm⟩ := hm journal
  exact ⟨journal₁, by rw [outcome_lastFlushed, hm]; rfl⟩

theorem write {path : String} {v : Value} {store : Store} (h : w.store.set path v = .ok store) :
    (Run.write path v).Leads w () { w with store } := fun _ =>
  ⟨_, by rw [outcome_write, h]⟩

theorem mapM_cons {f : α → Run β} {as : List α} {bs : List β} (ha : (f a).Leads w b w₁)
    (has : (as.mapM f).Leads w₁ bs w₂) : ((a :: as).mapM f).Leads w (b :: bs) w₂ := by
  rw [List.mapM_cons]
  exact ha.bind (has.bind pure)

/-- Several runs that leave the world as it is. -/
theorem mapM {f : α → Run β} {as : List α} {bs : List β}
    (h : List.Forall₂ (fun a b => (f a).Leads w b w) as bs) : (as.mapM f).Leads w bs w := by
  induction h with
  | nil => exact pure
  | cons ha _ ih => exact mapM_cons ha ih

theorem foldlM_cons {f : β → α → Run β} {as : List α} {c d : β} (ha : (f b a).Leads w c w₁)
    (has : (as.foldlM f c).Leads w₁ d w₂) : ((a :: as).foldlM f b).Leads w d w₂ := by
  rw [List.foldlM_cons]
  exact ha.bind has

end Run.Leads

/-! ## Functions -/

namespace Function

variable {w : World} {scope : Scope}

theorem apply_setState {path : String} {v : Value} {store : Store}
    (h : w.store.set path v = .ok store) :
    (apply .setState scope [.text path, v]).Leads w .absent { w with store } :=
  (Run.Leads.ofExcept rfl).bind ((Run.Leads.write h).bind .pure)

theorem apply_mapGetValue {m v : Value} {key : String} (h : m.member key = .ok v) :
    (apply .mapGetValue scope [m, .text key]).Leads w v w :=
  (Run.Leads.ofExcept rfl).bind (.ofExcept h)

theorem apply_listGetItem {items : List Value} {index : Int64} {v : Value}
    (h : itemAt items index = .ok v) :
    (apply .listGetItem scope [.list items, .number index]).Leads w v w :=
  Run.Leads.ofExcept h

theorem apply_output (tag message : String) (rest : List Value) :
    (apply .output scope (.text tag :: .text message :: rest)).Leads w .absent
      (w.say tag message) :=
  fun _ => ⟨_, rfl⟩

theorem apply_flush :
    (apply .flush scope []).Leads w (.text w.output.flush.1) w.flushed :=
  fun _ => ⟨_, rfl⟩

/-- What is acknowledged is shown under its category. -/
theorem apply_acknowledge (tag message category content : String) :
    (apply .acknowledge scope [.text tag, .text message, .text category, .text content]).Leads w
      .absent (w.say category content) :=
  fun _ => ⟨_, rfl⟩

theorem apply_concat (s t : String) :
    (apply .concat scope [.text s, .text t]).Leads w (.text (s ++ t)) w := by
  have hjoin : String.join [s, t] = s ++ t := by simp [String.join]
  rw [← hjoin]
  exact fun _ => ⟨_, rfl⟩

theorem apply_equal (a b : Value) :
    (apply .equal scope [a, b]).Leads w (.bool (a.looselyEquals b)) w :=
  Run.Leads.pure

end Function

/-! ## Forms -/

/-- Every operator is found by its name. -/
theorem Primitive.ofName?_name (p : Primitive) : ofName? p.name = some p := by
  rcases p with f | f <;> cases f <;> rfl

namespace Evaluation

variable {setting : Setting} {n : Nat} {w w₁ w₂ : World} {scope : Scope} {v u : Value}

theorem evalAt_text (content : String) :
    (evalAt setting (n + 1) (.text content) scope).Leads w (.text content) w :=
  Run.Leads.pure

theorem evalAt_number (i : Int64) :
    (evalAt setting (n + 1) (.number i) scope).Leads w (.number i) w :=
  Run.Leads.pure

theorem evalAt_reserved {name : String} (h : reserved? name = some v) :
    (evalAt setting (n + 1) (.symbol name) scope).Leads w v w :=
  Run.Leads.bind_get fun _ => .ofExcept (by simp only [lookUp, h])

/-- A name that is bound means the value that it is bound to. -/
theorem evalAt_bound {name : String} (hreserved : reserved? name = none)
    (h : scope.find? name = some v) :
    (evalAt setting (n + 1) (.symbol name) scope).Leads w v w :=
  Run.Leads.bind_get fun _ => .ofExcept (by simp only [lookUp, hreserved, h])

theorem check_of_accepts {arity : Arity} {count : Nat} (h : arity.accepts count) (name : String) :
    arity.check name count = .ok () := by
  rw [Arity.check, if_pos h]

/-- One argument is enough where one is asked for. -/
theorem accepts_cons (form : Form) (forms : List Form) :
    (Arity.atLeast 1).accepts (form :: forms).length := by
  simp [Arity.accepts]

theorem sequence_singleton (eval : Form → Scope → Run Value) (scope : Scope) (form : Form) :
    sequence eval scope [form] = eval form scope := by
  rw [sequence, List.foldlM_cons]
  exact bind_pure _

/-- A special form is applied to as many arguments as it takes. -/
theorem applyList_special {program : Program} {eval : Form → Scope → Run Value}
    {call : String → List Value → Run Value} (form : SpecialForm) {arguments : List Form}
    (harity : form.arity.accepts arguments.length) :
    applyList program eval call scope (.symbol form.name :: arguments) =
      applySpecial program eval call form scope arguments := by
  have hname : Primitive.ofName? form.name = some (.special form) :=
    Primitive.ofName?_name (.special form)
  have hcheck : form.arity.check form.name arguments.length = .ok () := check_of_accepts harity _
  simp only [applyList, hname, applyPrimitive, Primitive.arity, Primitive.name, hcheck]
  rfl

/-- A function is applied to its arguments, if there are as many as it takes. -/
theorem applyList_function {program : Program} {eval : Form → Scope → Run Value}
    {call : String → List Value → Run Value} (f : Function) {arguments : List Form}
    (harity : f.arity.accepts arguments.length) :
    applyList program eval call scope (.symbol f.name :: arguments) =
      functionArguments eval f scope arguments >>= f.apply scope := by
  have hname : Primitive.ofName? f.name = some (.function f) :=
    Primitive.ofName?_name (.function f)
  have hcheck : f.arity.check f.name arguments.length = .ok () := check_of_accepts harity _
  simp only [applyList, hname, applyPrimitive, Primitive.arity, Primitive.name, hcheck]
  rfl

theorem evalAt_special (form : SpecialForm) {arguments : List Form}
    (harity : form.arity.accepts arguments.length)
    (h : (applySpecial setting.program (evalAt setting n) (callAt setting n) form scope
      arguments).Leads w v w₁) :
    (evalAt setting (n + 1) (.list (.symbol form.name :: arguments)) scope).Leads w v w₁ := by
  rw [evalAt, applyList_special form harity]
  exact h.within

theorem evalAt_apply (f : Function) {arguments : List Form} {values : List Value}
    (harity : f.arity.accepts arguments.length)
    (harguments : (functionArguments (evalAt setting n) f scope arguments).Leads w values w₁)
    (h : (f.apply scope values).Leads w₁ v w₂) :
    (evalAt setting (n + 1) (.list (.symbol f.name :: arguments)) scope).Leads w v w₂ := by
  rw [evalAt, applyList_function f harity]
  exact (harguments.bind h).within

/-- A function of values. -/
theorem evalAt_function (f : Function) {arguments : List Form} {values : List Value}
    (hpath : f.takesPath = false) (harity : f.arity.accepts arguments.length)
    (harguments : List.Forall₂ (fun form v => (evalAt setting n form scope).Leads w v w)
      arguments values)
    (h : (f.apply scope values).Leads w v w₁) :
    (evalAt setting (n + 1) (.list (.symbol f.name :: arguments)) scope).Leads w v w₁ := by
  refine evalAt_apply f harity ?_ h
  simp only [functionArguments, hpath]
  exact .mapM harguments

/-- A function on a state path that is written as a bare symbol. -/
theorem evalAt_function_path (f : Function) {path : String} {arguments : List Form}
    {values : List Value} (hpath : f.takesPath)
    (harity : f.arity.accepts (arguments.length + 1))
    (harguments : List.Forall₂ (fun form v => (evalAt setting n form scope).Leads w v w)
      arguments values)
    (h : (f.apply scope (.text path :: values)).Leads w v w₁) :
    (evalAt setting (n + 1) (.list (.symbol f.name :: .symbol path :: arguments)) scope).Leads w v
      w₁ := by
  refine evalAt_apply f harity ?_ h
  simp only [functionArguments, hpath]
  exact (Run.Leads.mapM harguments).bind .pure

/-- A branch that is taken. -/
theorem evalAt_choice_true {condition whenTrue : Form}
    (hcondition : (evalAt setting n condition scope).Leads w v w₁) (hv : v.isTruthy)
    (h : (evalAt setting n whenTrue scope).Leads w₁ u w₂) :
    (evalAt setting (n + 1) (.list [.symbol "IF", condition, whenTrue]) scope).Leads w u w₂ := by
  refine evalAt_special .choice rfl ?_
  refine hcondition.bind ?_
  rw [if_pos hv]
  exact h

/-- A branch that is not taken, and has no other. -/
theorem evalAt_choice_false {condition whenTrue : Form}
    (hcondition : (evalAt setting n condition scope).Leads w v w₁) (hv : v.isTruthy = false) :
    (evalAt setting (n + 1) (.list [.symbol "IF", condition, whenTrue]) scope).Leads w .absent
      w₁ := by
  refine evalAt_special .choice rfl ?_
  refine hcondition.bind ?_
  rw [hv]
  exact Run.Leads.pure

/-- Forms in sequence under one binding. -/
theorem evalAt_binding {name : String} {expression : Form} {body : List Form}
    (hexpression : (evalAt setting n expression scope).Leads w v w₁)
    (hbody : (sequence (evalAt setting n) (scope.define name v) body).Leads w₁ u w₂) :
    (evalAt setting (n + 1)
      (.list (.symbol "LET" :: .list [.list [.symbol name, expression]] :: body)) scope).Leads w u
      w₂ := by
  refine evalAt_special .binding (accepts_cons _ body) ?_
  exact Run.Leads.bind (.foldlM_cons (hexpression.bind .pure) .pure) hbody

/-- The call of a procedure that the program defines. -/
theorem evalAt_call {name : String} {arguments : List Form} {values : List Value}
    (hdefined : setting.program.defines name)
    (harguments : List.Forall₂ (fun form v => (evalAt setting n form scope).Leads w v w)
      arguments values)
    (h : (callAt setting n name values).Leads w v w₁) :
    (evalAt setting (n + 1)
      (.list (.symbol "CALL_PROCEDURE" :: .symbol name :: arguments)) scope).Leads w v w₁ := by
  refine evalAt_special .call (accepts_cons _ arguments) ?_
  refine Run.Leads.bind .pure ?_
  rw [if_pos hdefined]
  exact (Run.Leads.mapM harguments).bind h

/-! ## Procedures -/

/-- One statement of a procedure after the other. -/
theorem statements_cons {name : String} {statement : Form} {rest : List Form}
    (h : (evalAt setting n statement scope).Leads w v w₁)
    (hrest : (rest.forM fun statement => do
      discard (Run.within (.executing name) (evalAt setting n statement scope))).Leads w₁ () w₂) :
    ((statement :: rest).forM fun statement => do
      discard (Run.within (.executing name) (evalAt setting n statement scope))).Leads w () w₂ :=
  h.within.discard.bind hrest

/-- A procedure that takes the values runs its statements in the scope of its parameters. -/
theorem callProcedure_of_fits {program : Program} {eval : Form → Scope → Run Value} {name : String}
    {values : List Value} {p : Procedure} (hp : program.find? name = some p)
    (hfits : p.parameters = [] ∨ values.length ≤ p.parameters.length) (depth : Nat) :
    callProcedure program eval depth name values =
      (do Run.log (.calling name depth)
          runBody eval name (Scope.ofCall p.parameters values) p.body) := by
  have haccepted : ¬(!p.parameters.isEmpty && p.parameters.length < values.length) := by
    rcases hfits with h | h <;> simp [h]
  rw [callProcedure, Program.lookUp_of_some hp]
  exact if_neg haccepted

theorem callAt_leads {name : String} {values : List Value} {p : Procedure}
    (hp : setting.program.find? name = some p)
    (hfits : p.parameters = [] ∨ values.length ≤ p.parameters.length)
    (hbody : (p.body.forM fun statement => do
      discard (Run.within (.executing name)
        (evalAt setting n statement (Scope.ofCall p.parameters values)))).Leads w () w₁) :
    (callAt setting (n + 1) name values).Leads w (w.lastChunk w₁) w₁ := by
  rw [callAt, callProcedure_of_fits hp hfits]
  exact Run.Leads.bind (.log _) (.lastFlushed hbody)

end Evaluation

end TurnScript
