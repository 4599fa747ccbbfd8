import TurnScript.Proofs.Evaluation.DepthLimit

/-!
# Evaluation that is mirrored

The level on which something is evaluated is seen in two places only: the journal records the level
of a call, and the trail of an error names the forms around it. Apart from these, worlds and results
can be the same (`SameWorld`, `SameResult`) although evaluation went on in different ways. A run is
mirrored by another one (`Run.MirroredBy`) if the other does the same from the same world, unless
the first ends unevaluated. This is a congruence, and the forms on a trail do not matter to it.

If calls are mirrored as soon as evaluation on fewer levels is, then all evaluation under one setting
is mirrored under another one that has a certain number of levels for each level of the first
(`mirroredBy_of_rate`). With one level for each, this is so under any two limits of one program
(`mirroredBy_of_le`).
-/

namespace TurnScript

/-! ## Results and worlds that are the same -/

/-- Whether the step says that a statement of a procedure was executed. -/
def TrailStep.isExecution : TrailStep → Bool
  | evaluating _ => false
  | executing _ => true

/-- The error without the forms on its trail. -/
def Error.withoutForms : Error → Error
  | mismatch cause trail => mismatch cause (trail.filter TrailStep.isExecution)
  | evaluation cause trail => evaluation cause (trail.filter TrailStep.isExecution)
  | error => error

namespace Error

theorem withoutForms_within_evaluating (form : Form) (e : Error) :
    (e.within (.evaluating form)).withoutForms = e.withoutForms := by
  cases e <;> simp [within, withoutForms, TrailStep.isExecution]

/-- A step that is put on the trail says nothing about the forms before it. -/
theorem withoutForms_within (step : TrailStep) (e : Error) :
    (e.within step).withoutForms = (e.withoutForms.within step).withoutForms := by
  cases e <;> simp [within, withoutForms]

end Error

/-- The results are one value, or one error but for the forms on its trail. -/
inductive SameResult {α : Type} : Except Error α → Except Error α → Prop
  | ok (a : α) : SameResult (.ok a) (.ok a)
  | error {e e' : Error} : e.withoutForms = e'.withoutForms → SameResult (.error e) (.error e')

namespace SameResult

variable {α : Type} {r r' : Except Error α}

theorem refl (r : Except Error α) : SameResult r r := by
  cases r with
  | ok a => exact .ok a
  | error e => exact .error rfl

theorem within (step : TrailStep) (h : SameResult r r') :
    SameResult (r.mapError (Error.within step)) (r'.mapError (Error.within step)) := by
  cases h with
  | ok a => exact .ok a
  | @error e e' h =>
    exact .error (by rw [Error.withoutForms_within, h, ← Error.withoutForms_within])

theorem evaluating_left (form : Form) (h : SameResult r r') :
    SameResult (r.mapError (Error.within (.evaluating form))) r' := by
  cases h with
  | ok a => exact .ok a
  | error h => exact .error ((Error.withoutForms_within_evaluating form _).trans h)

theorem evaluating_right (form : Form) (h : SameResult r r') :
    SameResult r (r'.mapError (Error.within (.evaluating form))) := by
  cases h with
  | ok a => exact .ok a
  | error h => exact .error (h.trans (Error.withoutForms_within_evaluating form _).symm)

end SameResult

/-- The event without the level of a call. -/
def Event.withoutDepth : Event → Event
  | log (.calling name _) => log (.calling name 0)
  | event => event

/-- The worlds are one but for the levels of calls in the journal. -/
structure SameWorld (w w' : World) : Prop where
  store : w.store = w'.store
  output : w.output = w'.output
  chunks : w.chunks = w'.chunks
  journal : w.journal.map Event.withoutDepth = w'.journal.map Event.withoutDepth

namespace SameWorld

variable {w w' : World}

theorem refl (w : World) : SameWorld w w := ⟨rfl, rfl, rfl, rfl⟩

theorem log (h : SameWorld w w') {event event' : Event}
    (hevent : event.withoutDepth = event'.withoutDepth) :
    SameWorld { w with journal := w.journal.push event }
      { w' with journal := w'.journal.push event' } :=
  { h with journal := by rw [Array.map_push, Array.map_push, h.journal, hevent] }

end SameWorld

/-! ## Runs that are mirrored -/

/-- Where `m` does not end unevaluated, `m'` comes to the same result from the same world, and
    leaves the same world. -/
def Run.MirroredBy {α : Type} (m m' : Run α) : Prop :=
  ∀ w w', SameWorld w w' → ¬EndsUnevaluated (m.outcome w).1 →
    SameResult (m.outcome w).1 (m'.outcome w').1 ∧ SameWorld (m.outcome w).2 (m'.outcome w').2

namespace Run.MirroredBy

variable {α β : Type}

/-- A run that always ends unevaluated is mirrored by every run. -/
theorem of_throw (cause : EvaluationFault) (trail : List TrailStep) (m : Run α) :
    (throw (.evaluation cause trail) : Run α).MirroredBy m :=
  fun _ _ _ h => absurd ⟨cause, trail, rfl⟩ h

theorem bind {m m' : Run α} {f f' : α → Run β} (hm : m.MirroredBy m')
    (hf : ∀ a, m.Yields a → (f a).MirroredBy (f' a)) : (m >>= f).MirroredBy (m' >>= f') := by
  intro w w' hw h
  cases hr : m.outcome w with
  | mk r w₁ =>
    cases hr' : m'.outcome w' with
    | mk r' w₁' =>
      have hended := hm w w' hw
      rw [hr, hr'] at hended
      cases r with
      | error e =>
        rw [Run.outcome_bind_error hr] at h ⊢
        obtain ⟨hresult, hworld⟩ := hended (by simpa [EndsUnevaluated] using h)
        cases hresult with
        | error he => exact Run.outcome_bind_error hr' f' ▸ ⟨.error he, hworld⟩
      | ok a =>
        -- `m'` comes to the result `a`, too, and the second part goes on from the same world
        rw [Run.outcome_bind_ok hr] at h ⊢
        obtain ⟨hresult, hworld⟩ := hended (by simp [EndsUnevaluated])
        cases hresult with
        | ok => exact Run.outcome_bind_ok hr' f' ▸ hf a ⟨w, w₁, hr⟩ w₁ w₁' hworld h

theorem within (step : TrailStep) {m m' : Run α} (hm : m.MirroredBy m') :
    (Run.within step m).MirroredBy (Run.within step m') := by
  intro w w' hw h
  obtain ⟨hresult, hworld⟩ := hm w w' hw fun hended => h (hended.within step)
  exact ⟨hresult.within step, hworld⟩

theorem evaluating_left (form : Form) {m m' : Run α} (hm : m.MirroredBy m') :
    (Run.within (.evaluating form) m).MirroredBy m' := by
  intro w w' hw h
  obtain ⟨hresult, hworld⟩ := hm w w' hw fun hended => h (hended.within _)
  exact ⟨hresult.evaluating_left form, hworld⟩

theorem evaluating_right (form : Form) {m m' : Run α} (hm : m.MirroredBy m') :
    m.MirroredBy (Run.within (.evaluating form) m') := by
  intro w w' hw h
  obtain ⟨hresult, hworld⟩ := hm w w' hw h
  exact ⟨hresult.evaluating_right form, hworld⟩

/-- What `m` comes to, `m'` comes to. -/
theorem exists_outcome {m m' : Run α} (hm : m.MirroredBy m') {w w₁ : World} {r : Except Error α}
    (hr : ¬EndsUnevaluated r) (h : m.outcome w = (r, w₁)) :
    ∃ r' w₂, m'.outcome w = (r', w₂) ∧ SameResult r r' ∧ SameWorld w₁ w₂ := by
  have hended := hm w w (.refl w)
  rw [h] at hended
  obtain ⟨hresult, hworld⟩ := hended hr
  exact ⟨_, _, rfl, hresult, hworld⟩

theorem exists_outcome_ok {m m' : Run α} (hm : m.MirroredBy m') {w w₁ : World} {a : α}
    (h : m.outcome w = (.ok a, w₁)) : ∃ w₂, m'.outcome w = (.ok a, w₂) ∧ SameWorld w₁ w₂ := by
  have hok : ¬EndsUnevaluated (.ok a : Except Error α) := nofun
  obtain ⟨r', w₂, h', hresult, hworld⟩ := hm.exists_outcome hok h
  cases hresult with
  | ok => exact ⟨w₂, h', hworld⟩

theorem reading (f : Store → Except Error α) :
    (do Run.ofExcept (f (← get).store) : Run α).MirroredBy
      (do Run.ofExcept (f (← get).store)) := by
  intro w w' hw _
  rw [Run.outcome_reading, Run.outcome_reading, hw.store]
  exact ⟨.refl _, hw⟩

theorem lastFlushed {m m' : Run PUnit} (hm : m.MirroredBy m') :
    (Run.lastFlushed m).MirroredBy (Run.lastFlushed m') := by
  intro w w' hw h
  have hended := hm w w' hw
  rw [Run.outcome_lastFlushed] at h ⊢
  rw [Run.outcome_lastFlushed]
  generalize m.outcome w = ended, m'.outcome w' = ended' at h hended ⊢
  obtain ⟨r, w₁⟩ := ended
  obtain ⟨r', w₁'⟩ := ended'
  cases r with
  | error e =>
    obtain ⟨hresult, hworld⟩ := hended (by simpa [EndsUnevaluated] using h)
    cases hresult with
    | error he => exact ⟨.error he, hworld⟩
  | ok =>
    obtain ⟨hresult, hworld⟩ := hended (by simp [EndsUnevaluated])
    cases hresult with
    | ok =>
      have hchunk : w.lastChunk w₁ = w'.lastChunk w₁' := by
        rw [World.lastChunk, World.lastChunk, hw.chunks, hworld.chunks]
      refine ⟨?_, hworld⟩
      change SameResult (.ok (w.lastChunk w₁)) (.ok (w'.lastChunk w₁'))
      rw [hchunk]
      exact .ok _

theorem log {record record' : LogRecord}
    (h : (Event.log record).withoutDepth = (Event.log record').withoutDepth) :
    (Run.log record).MirroredBy (Run.log record') :=
  fun _ _ hw _ => ⟨.ok (), hw.log h⟩

theorem emit (entry : Output.Entry) : (Run.emit entry).MirroredBy (Run.emit entry) := by
  intro w w' hw _
  have hlogged := hw.log (rfl : (Event.output entry).withoutDepth = .output entry)
  exact ⟨.ok (), { hlogged with output := congrArg (Output.Buffer.append entry) hw.output }⟩

theorem flush : Run.flush.MirroredBy Run.flush := by
  intro w w' hw _
  rw [Run.outcome_flush, Run.outcome_flush, hw.output, hw.chunks]
  exact ⟨.refl _, ⟨hw.store, rfl, rfl, hw.journal⟩⟩

theorem write (path : String) (v : Value) : (Run.write path v).MirroredBy (Run.write path v) := by
  intro w w' hw _
  rw [Run.outcome_write, Run.outcome_write, hw.store]
  cases w'.store.set path v with
  | error e => exact ⟨.refl _, hw⟩
  | ok store => exact ⟨.refl _, { hw with store := rfl }⟩

end Run.MirroredBy

/-- Being mirrored is kept when runs are put together. -/
def Congruence.mirroredBy : Congruence (fun _ => True) (fun _ => True) (fun _ => True) where
  Holds := Run.MirroredBy
  acknowledged _ _ _ := trivial
  calling _ _ := trivial
  operational _ _ := trivial
  pure _ _ _ hw _ := ⟨.refl _, hw⟩
  throw _ _ _ hw _ := ⟨.refl _, hw⟩
  bind := .bind
  within := .within
  reading _ := .reading _
  lastFlushed := .lastFlushed
  log _ := .log rfl
  emit := .emit
  flush := .flush
  write _ := .write _

namespace Evaluation

/-! ## Programs that are mirrored -/

/-- Of a program, a list asks only which procedures it defines. -/
theorem applyList_congr {program program' : Program}
    (h : ∀ name, program.defines name = program'.defines name) (eval : Form → Scope → Run Value)
    (call : String → List Value → Run Value) (scope : Scope) (items : List Form) :
    applyList program eval call scope items = applyList program' eval call scope items := by
  have hcall (scope : Scope) (arguments : List Form) :
      callForm program eval call scope arguments = callForm program' eval call scope arguments := by
    unfold callForm
    simp only [h]
  simp only [applyList, applyPrimitive, applySpecial, hcall]

/-- A call is mirrored on any level, if the body of the procedure is. -/
theorem mirroredBy_callProcedure {program program' : Program}
    {eval eval' : Form → Scope → Run Value} {depth depth' : Nat} {name : String}
    {arguments : List Value}
    (hnone : program.find? name = none → program'.find? name = none)
    (hsome : ∀ p, program.find? name = some p → ∃ p', program'.find? name = some p' ∧
      p'.parameters = p.parameters ∧ ∀ scope,
        (runBody eval name scope p.body).MirroredBy (runBody eval' name scope p'.body)) :
    (callProcedure program eval depth name arguments).MirroredBy
      (callProcedure program' eval' depth' name arguments) := by
  unfold callProcedure
  cases hp : program.find? name with
  | none =>
    rw [Program.lookUp_of_none hp, Program.lookUp_of_none (hnone hp)]
    exact .bind (Congruence.mirroredBy.throw trivial) fun p hyields =>
      absurd hyields Run.not_yields_throw
  | some p =>
    obtain ⟨p', hp', hparameters, hbody⟩ := hsome p hp
    rw [Program.lookUp_of_some hp, Program.lookUp_of_some hp']
    change Run.MirroredBy (pure p >>= _) (pure p' >>= _)
    rw [pure_bind, pure_bind, hparameters]
    split
    · exact .bind (Congruence.mirroredBy.throw trivial) fun p hyields =>
        absurd hyields Run.not_yields_throw
    · exact .bind (.log rfl) fun _ _ => hbody _

/-- Evaluation under one setting is mirrored under the other, where there are `rate` levels for each
    level of the first, if the programs define procedures of the same names, and calls of these are
    mirrored as soon as evaluation on fewer levels is. -/
theorem mirroredBy_of_rate (setting setting' : Setting) {rate : Nat} (hrate : 0 < rate)
    (hdefines : ∀ name, setting.program.defines name = setting'.program.defines name)
    (hcall : ∀ levels levels', rate * (levels + 1) ≤ levels' + 1 →
      (∀ l l', l ≤ levels → rate * l ≤ l' → ∀ form scope,
        (evalAt setting l form scope).MirroredBy (evalAt setting' l' form scope)) →
      ∀ name arguments, (callAt setting (levels + 1) name arguments).MirroredBy
        (callAt setting' (levels' + 1) name arguments))
    (levels levels' : Nat) (h : rate * levels ≤ levels') :
    (∀ form scope, (evalAt setting levels form scope).MirroredBy
        (evalAt setting' levels' form scope)) ∧
      ∀ name arguments, (callAt setting levels name arguments).MirroredBy
        (callAt setting' levels' name arguments) := by
  induction levels using Nat.strongRecOn generalizing levels' with
  | ind levels ih =>
  cases levels with
  | zero => exact ⟨fun _ _ => .of_throw _ _ _, fun _ _ => .of_throw _ _ _⟩
  | succ levels =>
    -- the levels of the second setting do not run out before those of the first
    have hpos : 0 < levels' := Nat.lt_of_lt_of_le (Nat.mul_pos hrate levels.succ_pos) h
    obtain ⟨levels', rfl⟩ := Nat.exists_eq_add_one.2 hpos
    have hinner : rate * levels ≤ levels' := by
      rw [Nat.mul_succ] at h
      omega
    obtain ⟨hevalInner, hcallInner⟩ := ih levels (Nat.lt_succ_self _) levels' hinner
    refine ⟨fun form scope => Congruence.mirroredBy.evalAt_succ fun items _ => ?_, ?_⟩
    · rw [applyList_congr hdefines]
      exact Congruence.mirroredBy.applyList (Congruence.evaluatesTexts_evalAt _ _)
        (fun form _ scope => hevalInner form scope)
        (fun _ name values _ _ => hcallInner name values) (fun _ _ _ _ => trivial)
        (fun _ _ _ _ => trivial) fun _ _ _ => trivial
    · exact hcall levels levels' h fun l l' hl hl' => (ih l (Nat.lt_succ_of_le hl) l' hl').1

/-- Evaluation is mirrored where at least as many levels are left, whatever the limits are. -/
theorem mirroredBy_of_le (program : Program) {limit limit' levels levels' : Nat}
    (h : levels ≤ levels') :
    (∀ form scope, (evalAt ⟨program, limit⟩ levels form scope).MirroredBy
        (evalAt ⟨program, limit'⟩ levels' form scope)) ∧
      ∀ name arguments, (callAt ⟨program, limit⟩ levels name arguments).MirroredBy
        (callAt ⟨program, limit'⟩ levels' name arguments) := by
  refine mirroredBy_of_rate ⟨program, limit⟩ ⟨program, limit'⟩ Nat.one_pos (fun _ => rfl)
    (fun l l' hl heval name arguments => ?_) levels levels' (by rwa [Nat.one_mul])
  refine mirroredBy_callProcedure id fun p hp => ⟨p, hp, rfl, fun scope => ?_⟩
  exact Congruence.mirroredBy.runBody fun form _ scope =>
    heval l l' (Nat.le_refl l) (by omega) form scope

end Evaluation

end TurnScript
