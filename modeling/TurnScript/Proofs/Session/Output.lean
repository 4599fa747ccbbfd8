import TurnScript.Proofs.Output
import TurnScript.Proofs.Session.Loading
import TurnScript.Proofs.Session.Turn

/-!
# The output of turns

A run may flush the entries that it puts out at any time. No entry is lost by that, none is put out
twice, and their order stays (`World.Accounts`): what was flushed, and then the buffer, are the
entries that the buffer held before and those that were appended since. So the text of a turn is
that of these entries, wherever the turn flushes (`execute_accounts`).
-/

namespace TurnScript

/-- From `begun` to `w` these events took place, and the entries were flushed in these groups. -/
structure World.Accounts (begun : World) (events : List Event) (groups : List (List Output.Entry))
    (w : World) : Prop where
  journal : w.journal.toList = begun.journal.toList ++ events
  chunks : w.chunks.toList = begun.chunks.toList ++ groups.map Output.displayAll
  entries : groups.flatten ++ w.output.entries.toList =
    begun.output.entries.toList ++ events.filterMap Event.entry?

namespace World.Accounts

variable {records : LogRecord → Prop} {begun w w' : World} {events : List Event}
  {groups : List (List Output.Entry)}

theorem refl (w : World) : Accounts w [] [] w := ⟨by simp, by simp, by simp⟩

/-- A step adds an event or a group, or neither. -/
theorem step (h : Accounts begun events groups w) (hstep : Step records w w') :
    ∃ events groups, Accounts begun events groups w' := by
  obtain ⟨hjournal, hchunks, hentries⟩ := h
  cases hstep with
  | @log record _ hrecord =>
    refine ⟨events ++ [.log record], groups, ?_, hchunks, ?_⟩
    · rw [Array.toList_push, hjournal, List.append_assoc]
    · rw [hentries, List.filterMap_append]
      simp [Event.entry?]
  | emit entry =>
    refine ⟨events ++ [.output entry], groups, ?_, hchunks, ?_⟩
    · rw [Array.toList_push, hjournal, List.append_assoc]
    · rw [Output.Buffer.entries_append, Array.toList_push, ← List.append_assoc, hentries,
        List.filterMap_append, List.append_assoc]
      rfl
  | flush =>
    -- the buffer becomes a group of its own
    refine ⟨events, groups ++ [w.output.entries.toList], hjournal, ?_, ?_⟩
    · rw [Array.toList_push, hchunks, List.map_append, List.append_assoc]
      rfl
    · rw [List.flatten_append, List.flatten_singleton, hentries]
      exact List.append_nil _
  | write _ hset => exact ⟨events, groups, hjournal, hchunks, hentries⟩

/-- However far a run leads, its entries are accounted for. -/
theorem exists_of_reflTransGen (h : Relation.ReflTransGen (Step records) begun w) :
    ∃ events groups, Accounts begun events groups w := by
  induction h with
  | refl => exact ⟨[], [], refl _⟩
  | tail _ hstep ih =>
    obtain ⟨events, groups, h⟩ := ih
    exact h.step hstep

end World.Accounts

namespace Session

/-- The chunks that were flushed and the rest have the text of their entries. -/
theorem collect_displayAll (groups : List (List Output.Entry)) (rest : List Output.Entry) :
    collect (groups.map Output.displayAll) (Output.displayAll rest) =
      Output.displayAll (groups.flatten ++ rest) := by
  have hmap : groups.map Output.displayAll ++ [Output.displayAll rest] =
      (groups ++ [rest]).map Output.displayAll := by
    rw [List.map_append, List.map_singleton]
  rw [collect, hmap, Output.intercalate_filter_displayAll, List.flatten_append,
    List.flatten_singleton]

variable (session : Session) (procedure : String) (argument : Value)

/-- The entries that a turn appends to the output, in the order of its execution. -/
def appended : List Output.Entry :=
  ((session.execute procedure argument).2.journal.toList.drop session.journal.size).filterMap
    Event.entry?

/-- What the buffer holds before a turn, and then what the turn appends. -/
def pending : List Output.Entry :=
  session.output.entries.toList ++ session.appended procedure argument

/-- A turn adds events to the journal, and collects their entries behind those of the buffer. -/
theorem execute_accounts :
    session.journal.toList <+: (session.execute procedure argument).2.journal.toList ∧
      (session.execute procedure argument).1.1 =
        Output.displayAll (session.pending procedure argument) := by
  obtain ⟨events, groups, haccounts⟩ := World.Accounts.exists_of_reflTransGen
    (session.moves_turnWorld procedure argument (Evaluation.covers_true session.program))
  obtain ⟨htext, hafter⟩ := session.execute_eq procedure argument
  have hjournal : (session.execute procedure argument).2.journal.toList =
      session.journal.toList ++ .log (.invoking procedure) :: events := by
    rw [hafter, haccounts.journal]
    simp [logged, world]
  -- that the turn begins is a record, and no entry
  have happended : session.appended procedure argument = events.filterMap Event.entry? := by
    rw [appended, hjournal, ← Array.length_toList, List.drop_left]
    rfl
  refine ⟨⟨_, hjournal.symm⟩, ?_⟩
  rw [htext, haccounts.chunks, Output.Buffer.flush_fst, pending, happended]
  refine (collect_displayAll groups _).trans ?_
  rw [haccounts.entries]
  rfl

theorem pending_of_output (h : session.output = {}) :
    session.pending procedure argument = session.appended procedure argument := by
  rw [pending, h]
  exact List.nil_append _

theorem runTurn_fst : (session.runTurn procedure argument).1 =
    match (session.execute procedure argument).1.2 with
    | .ok () => (session.execute procedure argument).1.1
    | .error e =>
      if (session.execute procedure argument).1.1.isEmpty then "ERROR: " ++ e.message
      else (session.execute procedure argument).1.1 ++ "\n" ++ ("ERROR: " ++ e.message) := by
  rw [runTurn]
  rcases session.execute procedure argument with ⟨⟨text, _ | _⟩, after⟩ <;> rfl

/-- Whatever a turn flushes, its text is that of the entries which the buffer held and those that
    the turn appended, each once and in order. It is the answer of the turn, and the buffer is empty
    afterwards. So the turns of a session that was loaded say what they append themselves. -/
theorem execute_text :
    session.journal.toList <+: (session.execute procedure argument).2.journal.toList ∧
      (session.execute procedure argument).1.1 =
        Output.displayAll (session.pending procedure argument) ∧
      (session.invoke procedure argument).1 =
        (session.execute procedure argument).1.2.map
          (fun _ => Output.displayAll (session.pending procedure argument)) ∧
      (session.runTurn procedure argument).1 =
        (match (session.execute procedure argument).1.2 with
        | .ok () => Output.displayAll (session.pending procedure argument)
        | .error e =>
          if session.pending procedure argument = [] then "ERROR: " ++ e.message
          else Output.displayAll (session.pending procedure argument) ++ "\nERROR: " ++ e.message) ∧
      ((session.execute procedure argument).2.output = {} ∧
        (session.invoke procedure argument).2.output = {} ∧
        (session.runTurn procedure argument).2.output = {}) ∧
      ∀ config source, load config source = .ok session → ∀ (turns : List Turn) (turn : Turn),
        ((session.takeAll turns).execute turn.procedure turn.argument).1.1 =
          Output.displayAll ((session.takeAll turns).appended turn.procedure turn.argument) := by
  obtain ⟨hjournal, htext⟩ := session.execute_accounts procedure argument
  refine ⟨hjournal, htext, ?_, ?_, ⟨?_, ?_, ?_⟩, ?_⟩
  · rw [invoke_fst, htext]
  · rw [runTurn_fst, htext]
    have hempty : (Output.displayAll (session.pending procedure argument)).isEmpty ↔
        session.pending procedure argument = [] := by
      rw [String.isEmpty_iff, Output.displayAll_eq_empty_iff]
    cases (session.execute procedure argument).1.2 with
    | ok => rfl
    | error e =>
      have hnotice : "\n" ++ ("ERROR: " ++ e.message) = "\nERROR: " ++ e.message := by
        rw [← String.append_assoc]
        rfl
      simp only [hempty, String.append_assoc, hnotice]
  · rw [(session.execute_eq procedure argument).2]
  · exact session.output_take (.invoke procedure argument)
  · exact session.output_take (.run procedure argument)
  · intro config source hload turns turn
    have houtput : (session.takeAll turns).output = {} :=
      session.output_takeAll (output_of_load hload) turns
    rw [((session.takeAll turns).execute_accounts _ _).2, pending_of_output _ _ _ houtput]

/-- A procedure that puts out one entry before a flush and another one behind it. -/
theorem execute_text_howl :
    ∃ session, load {} "(DEFINE_PROCEDURE Say (x) (OUTPUT_TO_USER_BUFFER x x)
        (FLUSH_USER_OUTPUT_BUFFER) (HOWL))" = .ok session ∧
      Output.displayAll ((session.takeAll [.init]).appended "Say" (.text "Hi")) =
        "[Hi] Hi\n[WARNING] Primitive 'HOWL' not implemented." := by
  have htext : (load {} "(DEFINE_PROCEDURE Say (x) (OUTPUT_TO_USER_BUFFER x x)
        (FLUSH_USER_OUTPUT_BUFFER) (HOWL))").toOption.map
      (fun session => ((session.takeAll [.init]).execute "Say" (.text "Hi")).1.1) =
        some "[Hi] Hi\n[WARNING] Primitive 'HOWL' not implemented." := by
    decide +kernel
  cases hload : load {} "(DEFINE_PROCEDURE Say (x) (OUTPUT_TO_USER_BUFFER x x)
        (FLUSH_USER_OUTPUT_BUFFER) (HOWL))" with
  | error e =>
    rw [hload] at htext
    cases htext
  | ok session =>
    rw [hload] at htext
    obtain ⟨-, -, -, -, -, hturns⟩ := execute_text session "Say" (.text "Hi")
    refine ⟨session, rfl, ?_⟩
    exact (hturns {} _ hload [.init] (.run "Say" (.text "Hi"))).symm.trans (Option.some.inj htext)

end Session

end TurnScript
