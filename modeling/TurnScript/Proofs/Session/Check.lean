import TurnScript.Proofs.Program.Check
import TurnScript.Proofs.Session.Loading
import TurnScript.Proofs.Session.Turn

/-!
# What the check of a session foresees

A session runs nothing but the procedures that were checked when it was loaded. So the operators and
the literal calls that its turns pass over are among those that the check found, from whatever store
and output the turns begin (`foresees_takeAll`).
-/

namespace TurnScript.Session

variable {session : Session} {record : LogRecord}

/-- A turn logs what its program foresees. -/
theorem foresees_take {turn : Turn} (h : .log record ∈ (session.take turn).journal) :
    .log record ∈ session.journal ∨ session.program.Foresees record := by
  have hafter := (session.execute_eq turn.procedure turn.argument).2
  have hturn : .log record ∈ (session.execute turn.procedure turn.argument).2.journal →
      .log record ∈ session.journal ∨ session.program.Foresees record := by
    rw [hafter]
    intro hrecord
    have hmoves := session.moves_turnWorld turn.procedure turn.argument
      (Program.covers_foresees session.program)
    rcases World.records_of_reflTransGen hmoves hrecord with hbegun | hforeseen
    · rcases log_mem_push_log_iff.1 hbegun with hbefore | rfl
      · exact .inl hbefore
      · exact .inr trivial
    · exact .inr hforeseen
  rw [take_eq] at h
  cases hresult : (session.execute turn.procedure turn.argument).1.2 with
  | ok =>
    rw [hresult] at h
    exact hturn h
  | error e =>
    rw [hresult] at h
    rcases log_mem_push_log_iff.1 h with hbefore | rfl
    · exact hturn hbefore
    · exact .inr trivial

theorem foresees_takeAll {turns : List Turn} (h : .log record ∈ (session.takeAll turns).journal) :
    .log record ∈ session.journal ∨ session.program.Foresees record := by
  induction turns generalizing session with
  | nil => exact .inl h
  | cons turn turns ih =>
    rcases @ih (session.take turn) h with hbefore | hforeseen
    · exact foresees_take hbefore
    · rw [program_take] at hforeseen
      exact .inr hforeseen

/-- The unknown operators of a session that was loaded ascend, and they are the operators in its
    procedures that are no primitives. What is passed over is logged, in front of what the user is
    told. From whatever store and output the turns begin, an operator that they pass over is one of
    the unknown ones, and a literal call that they pass over was logged while loading. So if there
    are no unknown operators, then no turn passes one over. -/
theorem loading_foresees_turns {config : Config} {source : String} {records : List LogRecord}
    (h : loading config source = ⟨records, .ok session⟩) :
    session.program.unknownOperators.Pairwise (· < ·) ∧
      (∀ name, name ∈ session.program.unknownOperators ↔
        Primitive.ofName? name = none ∧ ∃ caller p statement arguments,
          (caller, p) ∈ session.program.procedures ∧ statement ∈ p.body ∧
            Form.Contains ⟨name, arguments⟩ statement) ∧
      (∀ name world, ((Evaluation.passOver name).outcome world).2.journal.toList =
        world.journal.toList ++ [.log (.unknownPrimitive name),
          .output ⟨"WARNING", "Primitive '" ++ name ++ "' not implemented."⟩]) ∧
      (∀ name callee world, ((Evaluation.passOverCall name callee).outcome world).2.journal.toList =
        world.journal.toList ++ [.log (.undefinedCallee name callee),
          .output ⟨"ERROR", (Error.procedureNotFound name).message⟩]) ∧
      ∀ (store : Store) (output : Output.Buffer) (turns : List Turn),
        (∀ name,
          .log (.unknownPrimitive name) ∈ (takeAll { session with store, output } turns).journal →
          name ∈ session.program.unknownOperators) ∧
        (∀ name callee literal, callee = .symbol literal ∨ callee = .text literal →
          .log (.undefinedCallee name callee) ∈
            (takeAll { session with store, output } turns).journal →
          name = literal ∧ ∃ caller p statement arguments,
            (caller, p) ∈ session.program.procedures ∧ statement ∈ p.body ∧
              Form.Contains ⟨"CALL_PROCEDURE", callee :: arguments⟩ statement ∧
              .undefinedTarget caller name ∈ records) ∧
        (session.program.unknownOperators = [] → ∀ name,
          .log (.unknownPrimitive name) ∉
            (takeAll { session with store, output } turns).journal) := by
  have hload : load config source = .ok session := congrArg Loading.outcome h
  obtain ⟨forms, program, -, -, rfl, hrecords⟩ := loading_eq_ok hload
  rw [h] at hrecords
  change records = _ at hrecords
  refine ⟨Program.sorted_unknownOperators _, fun name => ?_, Evaluation.journal_passOver,
    Evaluation.journal_passOverCall, fun store output turns => ?_⟩
  · rw [Program.mem_unknownOperators_iff]
    constructor
    · rintro ⟨hunknown, caller, arguments, p, hp, statement, hstatement, hform⟩
      exact ⟨hunknown, caller, p, statement, arguments, hp, hstatement, hform⟩
    · rintro ⟨hunknown, caller, p, statement, arguments, hp, hstatement, hform⟩
      exact ⟨hunknown, caller, arguments, p, hp, statement, hstatement, hform⟩
  -- the journal was empty, so what is in it was foreseen
  have hforeseen {record : LogRecord}
      (hrecord : .log record ∈
        (takeAll { config, program, store, output } turns).journal) :
      program.Foresees record :=
    (foresees_takeAll hrecord).resolve_left (by simp)
  refine ⟨fun name hname => hforeseen hname, fun name callee literal hcallee hname => ?_,
    fun hnone name hname => ?_⟩
  · obtain ⟨hliteral, caller, arguments, ⟨p, hp, statement, hstatement, hform⟩, htarget⟩ :=
      hforeseen hname literal hcallee
    refine ⟨hliteral, caller, p, statement, arguments, hp, hstatement, hform, ?_⟩
    have hcheck := Program.undefinedTarget_mem_checkRecords_iff.2 htarget
    rw [hrecords]
    exact List.mem_append_left _ (List.mem_append_right _ hcheck)
  · have hmem : name ∈ program.unknownOperators := hforeseen hname
    rw [hnone] at hmem
    exact absurd hmem List.not_mem_nil

/-- An operator that is no primitive, in a binding whose name is the same word. -/
theorem loading_foresees_howl :
    ∃ records session, loading {} "(DEFINE_PROCEDURE Say ()
        (LET ((HOWL (HOWL))) (CALL_PROCEDURE Nobody)))" = ⟨records, .ok session⟩ ∧
      session.program.unknownOperators = ["HOWL"] ∧
      ∀ turns name, .log (.unknownPrimitive name) ∈ (session.takeAll turns).journal →
        name = "HOWL" := by
  have hunknown : (loading {} "(DEFINE_PROCEDURE Say ()
        (LET ((HOWL (HOWL))) (CALL_PROCEDURE Nobody)))").outcome.toOption.map
      (·.program.unknownOperators) = some ["HOWL"] := by
    decide +kernel
  rcases hloading : loading {} "(DEFINE_PROCEDURE Say ()
        (LET ((HOWL (HOWL))) (CALL_PROCEDURE Nobody)))" with ⟨records, e | session⟩
  · rw [hloading] at hunknown
    cases hunknown
  · rw [hloading] at hunknown
    have hoperators : session.program.unknownOperators = ["HOWL"] := Option.some.inj hunknown
    obtain ⟨-, -, -, -, hturns⟩ := loading_foresees_turns hloading
    refine ⟨records, session, rfl, hoperators, fun turns name hname => ?_⟩
    have hmem := (hturns session.store session.output turns).1 name hname
    rw [hoperators] at hmem
    exact List.mem_singleton.1 hmem

end TurnScript.Session
