import Mathlib.Tactic.MkIffOfInductiveProp
import TurnScript.Proofs.Console.Refinement
import TurnScript.Proofs.Session.Output

/-!
# The output of lines

What is put out while the console processes a line belongs to this line: it is to be printed in the
reply to it, so that the buffer is empty when the next line is read (`Owns`). Of what is said to the
program this is true, but not of every evaluation. What an evaluation flushes is lost, and what is
left in the buffer by one that fails is printed with a later line.

* `throughout_owns_iff_settles`: nothing else keeps a line from owning its output.
-/

namespace TurnScript

/-! ## Lines of entries -/

namespace Text

theorem ofLines_append (front back : List String) :
    ofLines (front ++ back) = ofLines front ++ ofLines back := by
  rw [ofLines, List.map_append, String.join_append]
  rfl

theorem ofLines_cons (line : String) (rest : List String) :
    ofLines (line :: rest) = line ++ "\n" ++ ofLines rest :=
  String.join_cons

theorem ofLines_singleton (line : String) : ofLines [line] = line ++ "\n" :=
  (ofLines_cons line []).trans String.append_empty

theorem ofLines_eq_empty_iff {lines : List String} : ofLines lines = "" ↔ lines = [] := by
  constructor
  · intro h
    cases lines with
    | nil => rfl
    | cons line rest => simp [ofLines_cons] at h
  · rintro rfl
    rfl

/-- No line can be added in front without being seen. -/
theorem ofLines_eq_ofLines_append_iff {front lines : List String} :
    ofLines lines = ofLines (front ++ lines) ↔ front = [] := by
  rw [ofLines_append, ← ofLines_eq_empty_iff]
  constructor
  · intro h
    rw [← String.empty_append (s := ofLines lines), ← String.append_assoc,
      String.append_left_inj, String.append_empty] at h
    exact h.symm
  · intro h
    rw [h, String.empty_append]

end Text

namespace Output

variable {entries : List Entry} {groups : List (List Entry)}

/-- The text of entries is printed line by line. -/
theorem displayAll_newline (h : entries ≠ []) :
    displayAll entries ++ "\n" = Text.ofLines (entries.map Entry.display) := by
  induction entries with
  | nil => exact absurd rfl h
  | cons e rest ih =>
    rw [List.map_cons, Text.ofLines_cons]
    by_cases hrest : rest = []
    · subst hrest
      exact (congrArg (· ++ "\n") String.intercalate_singleton).trans (String.append_empty).symm
    · rw [← ih hrest, ← List.singleton_append, displayAll_append (by simp) hrest, displayAll,
        List.map_singleton, String.intercalate_singleton, String.append_assoc]

/-- Only groups without entries have no text at all. -/
theorem forall_displayAll_eq_empty_iff :
    (∀ chunk ∈ groups.map displayAll, chunk = "") ↔ groups.flatten = [] := by
  simp only [List.forall_mem_map, displayAll_eq_empty_iff, List.flatten_eq_nil_iff]

end Output

/-! ## Turns and evaluations -/

namespace Session

section Turns

variable (session : Session) (procedure : String) (argument : Value)

/-- A turn adds to the journal what it appends to the output, and records. -/
theorem exists_events_runTurn : ∃ events,
    (session.runTurn procedure argument).2.journal.toList = session.journal.toList ++ events ∧
      events.filterMap Event.entry? = session.appended procedure argument := by
  obtain ⟨⟨events, hevents⟩, -⟩ := session.execute_accounts procedure argument
  have happended : session.appended procedure argument = events.filterMap Event.entry? := by
    rw [appended, ← hevents, ← Array.length_toList, List.drop_left]
  rw [runTurn]
  rcases hexecute : session.execute procedure argument with ⟨⟨text, e | _⟩, after⟩
  · -- the failure is logged, and this is no entry
    rw [hexecute] at hevents
    refine ⟨events ++ [.log (.turnFailed procedure e)], ?_, ?_⟩
    · rw [← List.append_assoc, hevents]
      exact Array.toList_push
    · rw [happended, List.filterMap_append]
      exact List.append_nil _
  · rw [hexecute] at hevents
    exact ⟨events, hevents.symm, happended.symm⟩

end Turns

variable (session : Session) (source : String)

/-- The chunks that an evaluation flushes. -/
def flushedBy : List String :=
  match Form.readAll session.config.reading source with
  | .error _ => []
  | .ok forms =>
    ((evaluateForms session.setting forms).outcome session.world).2.chunks.toList

/-- The forms lead along steps to the world that they leave. -/
theorem moves_evaluateForms (setting : Setting) (forms : List Form) :
    (evaluateForms setting forms).Moves fun _ => True :=
  holds_evaluateForms
    (Congruence.moves _ (fun _ => True) (fun _ _ _ => trivial) fun _ _ => trivial)
    fun form _ scope =>
      (Evaluation.moves_of_covers (Evaluation.covers_true setting.program) _).1 form scope trivial

/-- The entries of an evaluation are accounted for. -/
theorem exists_accounts_evaluate : ∃ events groups world,
    World.Accounts session.world events groups world ∧
      (session.evaluate source).2 = session.resume world ∧
      session.flushedBy source = groups.map Output.displayAll := by
  rw [evaluate, flushedBy]
  cases Form.readAll session.config.reading source with
  | error fault => exact ⟨[], [], session.world, .refl _, rfl, rfl⟩
  | ok forms =>
    obtain ⟨events, groups, haccounts⟩ := World.Accounts.exists_of_reflTransGen
      (moves_evaluateForms session.setting forms session.world)
    exact ⟨events, groups, _, haccounts, rfl, haccounts.chunks⟩

end Session

namespace Console

variable {session : Session} {line : String}

theorem shown_of_ne_empty {text : String} (h : text ≠ "") : shown text = [text] :=
  if_neg (by simpa using h)

theorem ofLines_shown (entries : List Output.Entry) :
    Text.ofLines (shown (Output.displayAll entries)) =
      Text.ofLines (entries.map Output.Entry.display) := by
  by_cases h : entries = []
  · subst h
    rfl
  · have hne : Output.displayAll entries ≠ "" := mt Output.displayAll_eq_empty_iff.1 h
    rw [shown_of_ne_empty hne, Text.ofLines_singleton, Output.displayAll_newline h]

/-! ## Lines and their output -/

/-- What a line asks for, as it is typed. -/
def asked? (line : String) : Option Request := typed? line >>= request?

theorem respond_of_asked {request : Request} (h : asked? line = some request) :
    respond session line = answer session request := by
  obtain ⟨typed, htyped, hrequest⟩ := Option.bind_eq_some_iff.1 h
  rw [respond, htyped]
  simp only [hrequest]

/-- A line that is empty, or cannot be read, is not replied to. -/
theorem respond_of_not_asked (h : asked? line = none) :
    (respond session line).1.texts = [] ∧ (respond session line).2 = session := by
  rw [respond]
  cases htyped : typed? line with
  | none => exact ⟨rfl, rfl⟩
  | some typed =>
    have hrequest : request? typed = none := by simpa [asked?, htyped] using h
    simp only [hrequest, and_self]

/-- The entries that are appended to the output while the line is processed. -/
def appended (session : Session) (line : String) : List Output.Entry :=
  ((respond session line).2.journal.toList.drop session.journal.size).filterMap Event.entry?

theorem appended_of_journal {events : List Event}
    (h : (respond session line).2.journal.toList = session.journal.toList ++ events) :
    appended session line = events.filterMap Event.entry? := by
  rw [appended, h, ← Array.length_toList, List.drop_left]

/-- What the console itself says to a request, beside the output of the program. -/
def remarks (session : Session) : Request → List String
  | .help => helpTexts
  | .state => [session.store.snapshot.toJson.pretty]
  | .quit => [farewell]
  | .evaluate forms =>
    match (session.evaluate forms).1 with
    | .ok value => [value.display]
    | .error e => ["Error: " ++ e.message]
  | .say line =>
    match (session.execute Session.dispatchProcedure (classify line)).1.2 with
    | .ok () => []
    | .error e => ["ERROR: " ++ e.message]

/-- All that is put out while the line is processed is printed in the reply to it, once and in order,
    in front of what the console says itself, and the buffer is empty afterwards. -/
@[mk_iff]
structure Owns (session : Session) (line : String) : Prop where
  texts : Text.ofLines (respond session line).1.texts =
    Text.ofLines ((appended session line).map Output.Entry.display ++
      (asked? line).elim [] (remarks session))
  output : (respond session line).2.output = {}

/-- An evaluation that settles its output: it flushes nothing, and leaves nothing if it fails. Other
    lines do so anyway. -/
def Settles (session : Session) (line : String) : Prop :=
  match asked? line with
  | some (.evaluate forms) =>
    (∀ chunk ∈ session.flushedBy forms, chunk = "") ∧
      ∀ e, (session.evaluate forms).1 = .error e → (session.evaluate forms).2.output = {}
  | _ => True

/-- A reply that leaves the session alone. -/
theorem owns_of_unchanged (houtput : session.output = {}) (h : (respond session line).2 = session)
    (htexts : (respond session line).1.texts = (asked? line).elim [] (remarks session)) :
    Owns session line where
  texts := by
    have happended : appended session line = [] :=
      appended_of_journal (by rw [h, List.append_nil])
    rw [htexts, happended]
    rfl
  output := by rw [h, houtput]

/-- What is said to the program owns its output, also if the turn fails. -/
theorem owns_of_say (houtput : session.output = {}) {said : String}
    (h : asked? line = some (.say said)) : Owns session line := by
  let procedure := Session.dispatchProcedure
  let argument := classify said
  have hrespond : respond session line =
      ({ texts := shown (session.runTurn procedure argument).1 },
        (session.runTurn procedure argument).2) := by
    rw [respond_of_asked h]
    rfl
  obtain ⟨events, hjournal, hevents⟩ := session.exists_events_runTurn procedure argument
  have happended : appended session line = session.appended procedure argument := by
    rw [appended_of_journal (by rw [hrespond, hjournal]), hevents]
  have htext := (session.execute_accounts procedure argument).2
  rw [Session.pending_of_output _ _ _ houtput, ← happended] at htext
  refine ⟨?_, ?_⟩
  · rw [hrespond, h, Session.runTurn_fst, htext, Text.ofLines_append, Option.elim_some, remarks]
    cases (session.execute procedure argument).1.2 with
    | ok => exact (ofLines_shown _).trans String.append_empty.symm
    | error e =>
      -- the notice stands alone if there is no output, and below it otherwise
      have hnotice : "ERROR: " ++ e.message ≠ "" := by simp
      by_cases hnil : appended session line = []
      · rw [hnil]
        exact congrArg Text.ofLines (shown_of_ne_empty hnotice)
      · have hne : Output.displayAll (appended session line) ≠ "" :=
          mt Output.displayAll_eq_empty_iff.1 hnil
        simp only [String.isEmpty_iff, hne, if_false]
        rw [shown_of_ne_empty (by simp [hne]), ← Output.displayAll_newline hnil,
          Text.ofLines_singleton, Text.ofLines_singleton, String.append_assoc]
  · rw [hrespond]
    exact session.output_take (.run procedure argument)

theorem journal_evaluate {forms : String} :
    (evaluate session forms).2.journal = (session.evaluate forms).2.journal := by
  rw [evaluate]
  rcases session.evaluate forms with ⟨_ | _, after⟩ <;> rfl

/-- The reply to an evaluation leaves the buffer empty, unless the evaluation fails and leaves
    something in it. -/
theorem output_evaluate_iff {forms : String} : (evaluate session forms).2.output = {} ↔
    ∀ e, (session.evaluate forms).1 = .error e → (session.evaluate forms).2.output = {} := by
  rw [evaluate]
  rcases session.evaluate forms with ⟨e | value, after⟩
  · exact ⟨fun h _ _ => h, fun h => h e rfl⟩
  · exact iff_of_true rfl nofun

/-- If nothing is left, then everything that was not flushed is printed. -/
theorem texts_evaluate {forms : String} (h : (evaluate session forms).2.output = {}) :
    Text.ofLines (evaluate session forms).1.texts =
      Text.ofLines ((session.evaluate forms).2.output.entries.toList.map Output.Entry.display ++
        remarks session (.evaluate forms)) := by
  rw [evaluate] at h ⊢
  rw [remarks]
  rcases hevaluate : session.evaluate forms with ⟨e | value, after⟩
  · rw [hevaluate] at h
    have hleft : after.output = {} := h
    rw [hleft]
    rfl
  · rw [Text.ofLines_append, Text.ofLines_append]
    exact congrArg (· ++ _) (ofLines_shown _)

/-- An evaluation owns its output, unless something is lost in a flush or left by a failure. -/
theorem owns_iff_of_evaluate (houtput : session.output = {}) {forms : String}
    (h : asked? line = some (.evaluate forms)) :
    Owns session line ↔
      (∀ chunk ∈ session.flushedBy forms, chunk = "") ∧
        ∀ e, (session.evaluate forms).1 = .error e → (session.evaluate forms).2.output = {} := by
  obtain ⟨events, groups, world, haccounts, hafter, hflushed⟩ :=
    session.exists_accounts_evaluate forms
  have hrespond : respond session line = evaluate session forms := respond_of_asked h
  have hjournal : (respond session line).2.journal = world.journal := by
    rw [hrespond, journal_evaluate, hafter, Session.resume]
  have happended : appended session line = groups.flatten ++ world.output.entries.toList := by
    rw [appended_of_journal (by rw [hjournal]; exact haccounts.journal), haccounts.entries,
      Session.world, houtput]
    rfl
  rw [owns_iff, hflushed, Output.forall_displayAll_eq_empty_iff, ← output_evaluate_iff, hrespond, h,
    happended]
  -- what is left in the buffer is printed, so nothing but the flushed groups can be missing
  refine and_congr_left fun hout => ?_
  rw [texts_evaluate hout, hafter, List.map_append, List.append_assoc, Option.elim_some]
  exact Text.ofLines_eq_ofLines_append_iff.trans List.map_eq_nil_iff

/-- A line owns its output exactly if it settles it. -/
theorem owns_iff_settles (houtput : session.output = {}) :
    Owns session line ↔ Settles session line := by
  rw [Settles]
  cases hasked : asked? line with
  | none =>
    obtain ⟨htexts, hafter⟩ := respond_of_not_asked hasked
    exact iff_of_true (owns_of_unchanged houtput hafter (by rw [htexts, hasked]; rfl)) trivial
  | some request =>
    have hrespond := @respond_of_asked session _ _ hasked
    cases request with
    | evaluate forms => exact owns_iff_of_evaluate houtput hasked
    | say said => exact iff_of_true (owns_of_say houtput hasked) trivial
    | help | state | quit =>
      exact iff_of_true
        (owns_of_unchanged houtput (by rw [hrespond]; rfl) (by rw [hrespond, hasked]; rfl)) trivial

/-! ## Conversations -/

/-- What is true of the session and the line, whenever the console reads a line. -/
def Throughout (P : Session → String → Prop) (session : Session) : List String → Prop
  | [] => True
  | line :: rest =>
    P session line ∧
      ((respond session line).1.exitCode? = none → Throughout P (respond session line).2 rest)

theorem throughout_iff (houtput : session.output = {}) (lines : List String) :
    Throughout Owns session lines ↔ Throughout Settles session lines := by
  induction lines generalizing session with
  | nil => rfl
  | cons line rest ih =>
    rw [Throughout, Throughout, ← owns_iff_settles houtput]
    -- a line that owns its output leaves an empty buffer to the next one
    exact and_congr_right fun howns => imp_congr_right fun _ => ih howns.output

/-- From its start on, the console prints everything that is put out while a line is processed in
    the reply to this line, once and in order, and reads the next line with an empty buffer, exactly
    as long as no evaluation flushes anything, and none that fails leaves anything. -/
theorem throughout_owns_iff_settles (session : Session) (lines : List String) :
    Throughout Owns (start session).2 lines ↔ Throughout Settles (start session).2 lines :=
  throughout_iff (session.output_take (.run Session.initProcedure .absent)) lines

/-- Two conversations in which a line does not own its output. The first evaluation fails, and the
    entry that it leaves is printed in the reply to `help`. The second one flushes its entry, which is
    printed nowhere. -/
theorem not_throughout_owns :
    ∃ session, openSession = .ok session ∧
      ¬ Throughout Owns (start session).2
          [":eval (OUTPUT_TO_USER_BUFFER \"T\" \"m\") (GET_STATE nope)", "help"] ∧
        ¬ Throughout Owns (start session).2
            [":eval (OUTPUT_TO_USER_BUFFER \"T\" \"m\") (FLUSH_USER_OUTPUT_BUFFER) NIL"] := by
  refine ⟨_, openSession_eq, ?_, ?_⟩
  · rintro ⟨howns, -⟩
    have houtput := howns.output
    revert houtput
    decide +kernel
  · rintro ⟨howns, -⟩
    have htexts := howns.texts
    revert htexts
    decide +kernel

end Console

end TurnScript
