import TurnScript.Proofs.Evaluation.Failure
import TurnScript.Proofs.Evaluation.Tasks

/-!
# What is under way when an error is raised

An error is raised by one form or call itself, while others are under way: each of the list forms
that came to it, and each procedure that executes a statement meanwhile. These are the *frames*
around the error, the outermost first. The tasks that evaluation comes to, one level after the
other, tell which frames there are, without a word about trails (`RaisedUnder`).

* `RaisedUnder.runAt`, `exists_raisedUnder`: what fails raises an error under some frames, and fails
  with the error that left them, that is, on whose trail they were put from the innermost to the
  outermost.
* `evalAt_error_tells_frames`: so the message of an error is the one that it was raised with, and a
  line for each of the frames.
-/

namespace TurnScript

/-! ## Frames -/

/-- What is under way while an error is raised: a list form that is evaluated, or a procedure of
    which a statement is executed. -/
inductive Frame
  | list (items : List Form)
  | procedure (name : String)

namespace Frame

/-- The line that tells of the frame. -/
def line : Frame → String
  | list items => "\n  Context: while evaluating: " ++ (Form.list items).display
  | procedure name => "\n  In procedure: " ++ name

/-- The step on the trail that stands for the frame. -/
def step : Frame → TrailStep
  | list items => .evaluating (.list items)
  | procedure name => .executing name

theorem message_step (frame : Frame) : frame.step.message = frame.line := by
  rcases frame with _ | _ <;> rfl

end Frame

namespace Error

/-- The error that left these frames, the outermost first, tells of them, if it was raised as
    `root`: a mismatch or a failed evaluation is the same still, and a line for each frame follows
    its message, from the innermost to the outermost. Any other error is unchanged. -/
def TellsFrames (frames : List Frame) (root e : Error) : Prop :=
  match root with
  | .mismatch cause trail =>
    trail = [] ∧ (∃ trail, e = .mismatch cause trail) ∧
      e.message = root.message ++ String.join (frames.reverse.map Frame.line)
  | .evaluation cause trail =>
    trail = [] ∧ (∃ trail, e = .evaluation cause trail) ∧
      e.message = root.message ++ String.join (frames.reverse.map Frame.line)
  | _ => e = root

/-- The error after it left these frames, the outermost first. -/
def leaving (frames : List Frame) (root : Error) : Error :=
  frames.foldr (fun frame => within frame.step) root

/-- What was under way before is not on the trail. -/
def IsFresh : Error → Prop
  | .mismatch _ trail | .evaluation _ trail => trail = []
  | _ => True

/-- Errors that keep their trail in one way are put together again with the steps of the frames
    behind it. -/
theorem leaving_eq (make : List TrailStep → Error)
    (h : ∀ step trail, (make trail).within step = make (trail ++ [step]))
    (trail : List TrailStep) (frames : List Frame) :
    leaving frames (make trail) = make (trail ++ frames.reverse.map Frame.step) := by
  induction frames with
  | nil => simp [leaving]
  | cons frame frames ih =>
    change within frame.step (leaving frames _) = _
    rw [ih, h, List.reverse_cons, List.map_append, ← List.append_assoc]
    rfl

theorem IsOperational.isFresh {e : Error} (h : e.IsOperational) : e.IsFresh := by
  rcases e with _ | _ | _ | _ | _ | _ | _ | _ | _ | ⟨_, _ | _⟩ | ⟨_ | _, _ | _⟩ | _
  all_goals first | exact True.intro | rfl | exact h.elim

/-- The steps of the frames add their lines to a message. -/
theorem append_lines (opening : String) (frames : List Frame) :
    opening ++ String.join ((frames.reverse.map Frame.step).map TrailStep.message) =
      opening ++ "" ++ String.join (frames.reverse.map Frame.line) := by
  have hlines : TrailStep.message ∘ Frame.step = Frame.line := funext Frame.message_step
  rw [List.map_map, hlines, String.append_empty]

theorem tellsFrames_leaving {root : Error} (h : root.IsFresh) (frames : List Frame) :
    TellsFrames frames root (leaving frames root) := by
  rcases root with _ | _ | _ | _ | _ | _ | _ | _ | _ | ⟨cause, trail⟩ | ⟨cause, trail⟩ | _
  case mismatch =>
    obtain rfl : trail = [] := h
    have hleaving := leaving_eq (mismatch cause) (fun _ _ => rfl) [] frames
    refine ⟨rfl, ⟨_, hleaving⟩, ?_⟩
    rw [hleaving]
    exact append_lines _ frames
  case evaluation =>
    obtain rfl : trail = [] := h
    have hleaving := leaving_eq (evaluation cause) (fun _ _ => rfl) [] frames
    refine ⟨rfl, ⟨_, hleaving⟩, ?_⟩
    rw [hleaving]
    exact append_lines _ frames
  all_goals exact leaving_eq (fun _ => _) (fun _ _ => rfl) [] frames

end Error

namespace Evaluation

/-! ## Every level -/

/-- In a task, with so many levels left, an error is raised under these frames, the outermost
    first. It leads from one world to another. -/
inductive RaisedUnder (setting : Setting) :
    (levels : Nat) → Task → World → List Frame → Error → World → Prop
  /-- Below the last level nothing becomes a frame. -/
  | tooDeep {task : Task} {w : World} :
    RaisedUnder setting 0 task w [] (.evaluation (.depthExceeded setting.depthLimit) []) w
  | symbol {levels : Nat} {name : String} {scope : Scope} {w : World} {e : Error} :
    lookUp name scope w.store = .error e →
    RaisedUnder setting (levels + 1) (.eval (.symbol name) scope) w [] e w
  | list {levels : Nat} {items : List Form} {scope : Scope} {w w' : World} {e : Error} :
    Fails (evalAt setting levels) scope w items e w' →
    RaisedUnder setting (levels + 1) (.eval (.list items) scope) w [.list items] e w'
  | call {levels : Nat} {name : String} {arguments : List Value} {w : World} {e : Error} :
    Refuses setting.program name arguments e →
    RaisedUnder setting (levels + 1) (.call name arguments) w [] e w
  | withinList {levels : Nat} {items : List Form} {scope : Scope} {task : Task}
      {w w₁ w' : World} {frames : List Frame} {e : Error} :
    Reaches setting.program (evalAt setting levels) scope w items task w₁ →
    RaisedUnder setting levels task w₁ frames e w' →
    RaisedUnder setting (levels + 1) (.eval (.list items) scope) w (.list items :: frames) e w'
  | withinProcedure {levels : Nat} {name : String} {arguments : List Value} {form : Form}
      {inner : Scope} {w w₁ w' : World} {frames : List Frame} {e : Error} :
    Executes setting.program (evalAt setting levels) (setting.depthLimit - (levels + 1)) w name
      arguments form inner w₁ →
    RaisedUnder setting levels (.eval form inner) w₁ frames e w' →
    RaisedUnder setting (levels + 1) (.call name arguments) w (.procedure name :: frames) e w'

variable {setting : Setting} {levels : Nat} {task : Task} {w w' : World} {e root : Error}

/-- What a task comes to with so many levels left. -/
def runAt (setting : Setting) (levels : Nat) : Task → Run Value :=
  runTask (evalAt setting levels) (callAt setting levels)

/-- What raises an error under some frames fails with the error that left them. -/
theorem RaisedUnder.runAt {frames : List Frame}
    (h : RaisedUnder setting levels task w frames root w') :
    (runAt setting levels task).outcome w = (.error (root.leaving frames), w') := by
  induction h with
  | @tooDeep task => rcases task with _ | _ <;> rfl
  | symbol hlookUp =>
    refine (Run.outcome_reading _ _).trans ?_
    rw [hlookUp]
    rfl
  | list hfails => exact Run.outcome_within_eq_error_iff.2 ⟨_, hfails.applyList, rfl⟩
  | call hrefuses => exact hrefuses.callProcedure
  | withinList hreaches _ ih =>
    exact Run.outcome_within_eq_error_iff.2 ⟨_, hreaches.applyList ih, rfl⟩
  | withinProcedure hexecutes _ ih =>
    exact callProcedure_eq_error_iff.2 (.inr ⟨_, _, _, _, hexecutes, ih, rfl⟩)

/-- What fails raises an error under some frames. -/
theorem exists_raisedUnder (h : (runAt setting levels task).outcome w = (.error e, w')) :
    ∃ frames root, RaisedUnder setting levels task w frames root w' := by
  induction levels generalizing task w e with
  | zero => rcases task with _ | _ <;> cases h <;> exact ⟨[], _, .tooDeep⟩
  | succ levels ih =>
    rcases task with ⟨form, scope⟩ | ⟨name, arguments⟩
    case eval =>
      rcases form with name | _ | _ | items
      case symbol =>
        obtain ⟨hlookUp, rfl⟩ := Prod.mk.inj ((Run.outcome_reading _ _).symm.trans h)
        exact ⟨[], e, .symbol hlookUp⟩
      case list =>
        obtain ⟨e₀, hlist, rfl⟩ := Run.outcome_within_eq_error_iff.1 h
        obtain hfails | ⟨task, w₁, hreaches, htask⟩ := failsAt_of_applyList hlist
        · exact ⟨_, e₀, .list hfails⟩
        · obtain ⟨frames, root, hroot⟩ := ih htask
          exact ⟨_, root, .withinList hreaches hroot⟩
      -- a text and a number have a value
      all_goals cases h
    case call =>
      obtain ⟨hrefuses, rfl⟩ | ⟨form, inner, w₁, e₀, hexecutes, hform, rfl⟩ :=
        callProcedure_eq_error_iff.1 h
      · exact ⟨[], e, .call hrefuses⟩
      · have htask : (Evaluation.runAt setting levels (.eval form inner)).outcome w₁ =
            (.error e₀, w') := hform
        obtain ⟨frames, root, hroot⟩ := ih htask
        exact ⟨_, root, .withinProcedure hexecutes hroot⟩

theorem Fails.isFresh {eval : Form → Scope → Run Value} {scope : Scope} {items : List Form}
    (h : Fails eval scope w items e w') : e.IsFresh := by
  rcases h with _ | _ | _ | ⟨_, _, hf⟩ | _ | _ | ⟨_, _, he⟩
  case function => exact (Function.raises_apply _ _ _ _ _ (congrArg Prod.fst hf)).isFresh
  case callee => exact (Operational.asString _ _ he).isFresh
  all_goals first | exact True.intro | rfl

/-- Nothing was under way before an error was raised. -/
theorem RaisedUnder.isFresh {frames : List Frame}
    (h : RaisedUnder setting levels task w frames root w') : root.IsFresh := by
  induction h with
  | tooDeep => rfl
  | symbol hlookUp => exact (Operational.lookUp _ _ _ _ hlookUp).isFresh
  | list hfails => exact hfails.isFresh
  | call hrefuses => rcases hrefuses with _ | _ <;> exact True.intro
  | withinList _ _ ih => exact ih
  | withinProcedure _ _ ih => exact ih

/-- If a form fails, an error was raised in it under some frames, and nothing was done since; and
    the error tells of the frames under which it was raised. -/
theorem evalAt_error_tells_frames (setting : Setting) (levels : Nat) (form : Form) (scope : Scope)
    (w w' : World) (e : Error) (h : (evalAt setting levels form scope).outcome w = (.error e, w')) :
    (∃ frames root, RaisedUnder setting levels (.eval form scope) w frames root w') ∧
      ∀ frames root w₁, RaisedUnder setting levels (.eval form scope) w frames root w₁ →
        w₁ = w' ∧ root.TellsFrames frames e := by
  refine ⟨exists_raisedUnder h, fun frames root w₁ hraised => ?_⟩
  have hrun : (evalAt setting levels form scope).outcome w = (.error (root.leaving frames), w₁) :=
    hraised.runAt
  obtain ⟨he, rfl⟩ := Prod.mk.inj (hrun.symm.trans h)
  obtain rfl : root.leaving frames = e := Except.error.inj he
  exact ⟨rfl, Error.tellsFrames_leaving hraised.isFresh frames⟩

/-- A form that calls a procedure, which fails in a `LET` in the branch of an `IF`. -/
theorem evalAt_error_tells_frames_item :
    let item : Form := .list [.symbol "LIST_GET_ITEM", .symbol "x", .number 0]
    let binding : Form := .list [.symbol "LET", .list [.list [.symbol "y", item]], .symbol "y"]
    let choice : Form := .list [.symbol "IF", .symbol "TRUE", binding]
    let callItem : Form := .list [.symbol "CALL_PROCEDURE", .symbol "Item", .text "Hi"]
    let form : Form := .list [.symbol "SEQ", .number 1, callItem]
    let setting : Setting := ⟨⟨[("Item", ⟨"Item", ["x"], [.text "first", choice]⟩)]⟩, 7⟩
    let e : Error := .mismatch (.argumentNotList "LIST_GET_ITEM" .string)
      [.evaluating item, .evaluating binding, .evaluating choice, .executing "Item",
        .evaluating callItem, .evaluating form]
    let world : World := { journal := #[.log (.calling "Item" 2)] }
    (evalAt setting 7 form {}).outcome {} = (.error e, world) ∧
      (∃ frames root, RaisedUnder setting 7 (.eval form {}) {} frames root world) ∧
      ∀ frames root w₁, RaisedUnder setting 7 (.eval form {}) {} frames root w₁ →
        w₁ = world ∧ root.TellsFrames frames e := by
  intro item binding choice callItem form setting e world
  have hfails : (evalAt setting 7 form {}).outcome {} = (.error e, world) := rfl
  exact ⟨hfails, evalAt_error_tells_frames setting 7 form {} {} world e hfails⟩

end Evaluation

end TurnScript
