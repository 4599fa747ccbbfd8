import TurnScript.Proofs.World
import TurnScript.Session

/-!
# Turns

A session is driven by turns of four kinds (`Turn`), and each of them executes one procedure with
one argument. What a turn does to the session is what its run does to the world: the run leads along
steps (`moves_turnWorld`), and the session takes over the world that it leaves, with an empty buffer
(`execute_eq`). Then a failure may be logged (`take_eq`).
-/

namespace TurnScript.Session

/-- The ways to drive a session. -/
inductive Turn
  /-- The first turn. -/
  | init
  /-- A turn whose error is the answer. -/
  | invoke (procedure : String) (argument : Value)
  /-- A turn whose error is put below its output. -/
  | run (procedure : String) (argument : Value)
  /-- The turn of a user's command. -/
  | dispatch (command : String) (arguments : List String)

namespace Turn

/-- The procedure that a turn executes. -/
def procedure : Turn → String
  | init => initProcedure
  | invoke procedure _ | run procedure _ => procedure
  | dispatch .. => dispatchProcedure

/-- The argument that it is given. -/
def argument : Turn → Value
  | init => .absent
  | invoke _ argument | run _ argument => argument
  | dispatch command arguments => .command command arguments

end Turn

/-- The session after a turn. -/
def take (session : Session) : Turn → Session
  | .init => session.init.2
  | .invoke procedure argument => (session.invoke procedure argument).2
  | .run procedure argument => (session.runTurn procedure argument).2
  | .dispatch command arguments => (session.dispatch command arguments).2

/-- The session after several turns. -/
def takeAll (session : Session) (turns : List Turn) : Session := turns.foldl take session

variable (session : Session) (procedure : String) (argument : Value)

/-- The world that a turn leaves, before its output is collected. A procedure that is not defined
    leaves the world as it is. -/
def turnWorld : World :=
  let begun := (session.logged (.invoking procedure)).world
  match session.program.lookUp procedure with
  | .error _ => begun
  | .ok _ => ((session.turn procedure argument).outcome begun).2

/-- Output that was not flushed is all there is to collect. -/
theorem collect_nil (text : String) : collect [] text = text := by
  rw [collect, List.nil_append]
  by_cases h : text.isEmpty
  · rw [List.filter_cons_of_neg (by simp [h]), String.isEmpty_iff.1 h]
    rfl
  · rw [List.filter_cons_of_pos (by simp [h])]
    exact String.intercalate_singleton

/-- A turn's text is collected from the world that it leaves, and the session takes that world over,
    but for the output. -/
theorem execute_eq :
    (session.execute procedure argument).1.1 =
        collect (session.turnWorld procedure argument).chunks.toList
          (session.turnWorld procedure argument).output.flush.1 ∧
      (session.execute procedure argument).2 =
        { session with
          store := (session.turnWorld procedure argument).store
          output := {}
          journal := (session.turnWorld procedure argument).journal } := by
  rw [execute, turnWorld]
  cases session.program.lookUp procedure with
  | error e => exact ⟨(collect_nil _).symm, rfl⟩
  | ok p => exact ⟨rfl, rfl⟩

theorem invoke_fst : (session.invoke procedure argument).1 =
    (session.execute procedure argument).1.2.map
      fun _ => (session.execute procedure argument).1.1 := by
  rw [invoke]
  rcases session.execute procedure argument with ⟨⟨text, _ | _⟩, after⟩ <;> rfl

/-- A turn leaves what its execution leaves, and may log that it failed. -/
theorem take_eq (turn : Turn) :
    session.take turn =
      match (session.execute turn.procedure turn.argument).1.2 with
      | .ok () => (session.execute turn.procedure turn.argument).2
      | .error e =>
        (session.execute turn.procedure turn.argument).2.logged (.turnFailed turn.procedure e) := by
  -- the two ways differ in the answer alone, and the other turns are invoked
  have hinvoke (procedure : String) (argument : Value) : (session.invoke procedure argument).2 =
      match (session.execute procedure argument).1.2 with
      | .ok () => (session.execute procedure argument).2
      | .error e => (session.execute procedure argument).2.logged (.turnFailed procedure e) := by
    rw [invoke]
    rcases session.execute procedure argument with ⟨⟨text, _ | _⟩, after⟩ <;> rfl
  have hrun (procedure : String) (argument : Value) : (session.runTurn procedure argument).2 =
      match (session.execute procedure argument).1.2 with
      | .ok () => (session.execute procedure argument).2
      | .error e => (session.execute procedure argument).2.logged (.turnFailed procedure e) := by
    rw [runTurn]
    rcases session.execute procedure argument with ⟨⟨text, _ | _⟩, after⟩ <;> rfl
  cases turn with
  | init => exact hinvoke _ _
  | invoke procedure argument => exact hinvoke procedure argument
  | run procedure argument => exact hrun procedure argument
  | dispatch command arguments => exact hinvoke _ _

/-- A turn has no output left over, and leaves the program alone. -/
theorem output_take (turn : Turn) : (session.take turn).output = {} := by
  have hafter := (session.execute_eq turn.procedure turn.argument).2
  rw [take_eq]
  cases (session.execute turn.procedure turn.argument).1.2 <;>
    simp only [logged] <;> rw [hafter]

/-- A turn leaves the store that its run leaves. -/
theorem store_take (turn : Turn) :
    (session.take turn).store = (session.turnWorld turn.procedure turn.argument).store := by
  have hafter := (session.execute_eq turn.procedure turn.argument).2
  rw [take_eq]
  cases (session.execute turn.procedure turn.argument).1.2 <;>
    simp only [logged] <;> rw [hafter]

theorem program_take (turn : Turn) : (session.take turn).program = session.program := by
  have hafter := (session.execute_eq turn.procedure turn.argument).2
  rw [take_eq]
  cases (session.execute turn.procedure turn.argument).1.2 <;>
    simp only [logged] <;> rw [hafter]

theorem output_takeAll (h : session.output = {}) (turns : List Turn) :
    (session.takeAll turns).output = {} := by
  induction turns generalizing session with
  | nil => exact h
  | cons turn turns ih => exact ih (session.take turn) (session.output_take turn)

/-- What is kept when runs are put together holds of a turn, if it may write where its argument is
    recorded, and if its procedure is defined or may be missing. -/
theorem holds_turn {records : LogRecord → Prop} {errors : Error → Prop} {paths : String → Prop}
    {P : Form → Prop} (R : Congruence records errors paths)
    (h : Evaluation.Covers session.program records paths P)
    (hdeep : errors (Evaluation.tooDeep session.setting))
    (hname : session.program.defines procedure = false → errors (.procedureNotFound procedure))
    (hpath : ∀ path, session.recordPath? argument = some path → paths path) :
    R.Holds (session.turn procedure argument) (session.turn procedure argument) := by
  have hcall (arguments : List Value) :
      R.Holds (discard (session.setting.call procedure arguments 0))
        (discard (session.setting.call procedure arguments 0)) :=
    R.discard ((@Evaluation.holds_of_covers session.setting _ _ _ _ R h hdeep _).2 procedure
      arguments hname)
  rw [turn]
  cases hrecord : session.recordPath? argument with
  | none => exact hcall _
  | some path => exact R.bind (R.write (hpath path hrecord) argument) fun _ _ => hcall _

/-- What is kept when runs are put together holds of the evaluation of several forms, if it holds of
    each of them. -/
theorem holds_evaluateForms {records : LogRecord → Prop} {errors : Error → Prop}
    {paths : String → Prop} (R : Congruence records errors paths) {setting : Setting}
    {forms : List Form}
    (heval : ∀ form ∈ forms, ∀ scope, R.Holds (setting.eval form scope) (setting.eval form scope)) :
    R.Holds (evaluateForms setting forms) (evaluateForms setting forms) :=
  R.sequence heval

/-- The run of a turn leads along steps. -/
theorem moves_turnWorld {records : LogRecord → Prop} {P : Form → Prop}
    (h : Evaluation.Covers session.program records (fun _ => True) P) :
    Relation.ReflTransGen (World.Step records) (session.logged (.invoking procedure)).world
      (session.turnWorld procedure argument) := by
  rw [turnWorld]
  cases session.program.lookUp procedure with
  | error e => exact .refl
  | ok p =>
    have hturn : (session.turn procedure argument).Moves records :=
      session.holds_turn procedure argument
        (Congruence.moves records (fun _ => True) h.acknowledged h.calling) h trivial
        (fun _ => trivial) fun _ _ => trivial
    exact hturn _

end TurnScript.Session
