import TurnScript.Proofs.Evaluation.Chunks
import TurnScript.Proofs.Form.Joined
import TurnScript.Proofs.Session.Turn

/-!
# Evaluating text in parts

A text whose forms are evaluated against a session may be cut between two lines: the parts,
evaluated one after the other, come to the same (`evaluate_append_newline`). The parts of the text
are read alone as they are read together, and while the chunks of the first part are still there
when the second one begins in the one case, but not in the other, no form can tell.

* `evaluate_in_parts`: all of this, and what becomes of a text that cannot be read.
-/

namespace TurnScript.Session

variable {session : Session}

/-- What forms evaluate to does not hang on what was flushed before them. -/
theorem ignoresChunks_evaluateForms (setting : Setting) (forms : List Form) :
    (evaluateForms setting forms).IgnoresChunks :=
  holds_evaluateForms Congruence.ignoresChunks fun form _ =>
    (Evaluation.ignoresChunks setting _).1 form

/-- The last form of the second part gives the value, if there is any. -/
theorem evaluateForms_append (setting : Setting) (forms : List Form) {others : List Form}
    (h : others ≠ []) :
    evaluateForms setting (forms ++ others) =
      evaluateForms setting forms >>= fun _ => evaluateForms setting others := by
  obtain ⟨form, others, rfl⟩ := List.exists_cons_of_ne_nil h
  simp only [evaluateForms, List.foldlM_append, List.foldlM_cons]

/-- After a run, the session begins the next one without the chunks of the first. -/
theorem behind_world_resume (world : World) :
    (session.resume world).world.behind world.chunks = world := by
  simp [resume, Session.world, World.behind]

theorem resume_behind (earlier : Array String) (world : World) :
    session.resume (world.behind earlier) = session.resume world := rfl

theorem evaluate_of_readAll {source : String} {forms : List Form}
    (h : Form.readAll session.config.reading source = .ok forms) :
    session.evaluate source =
      (((evaluateForms session.setting forms).outcome session.world).1,
        session.resume ((evaluateForms session.setting forms).outcome session.world).2) := by
  rw [evaluate, h]

/-- A text that cannot be read changes nothing. -/
theorem evaluate_of_readAll_error {source : String} {fault : ParseError}
    (h : Form.readAll session.config.reading source = .error fault) :
    session.evaluate source = (.error (.parse fault), session) := by
  rw [evaluate, h]

/-- Two texts that can be read, the second with a form in it, are evaluated one below the other as
    they are one after the other, the second only if the first does not fail. -/
theorem evaluate_append_newline {front back : String} {forms others : List Form}
    (hfront : Form.readAll session.config.reading front = .ok forms)
    (hback : Form.readAll session.config.reading back = .ok others) (hne : others ≠ []) :
    session.evaluate (front ++ "\n" ++ back) =
      match session.evaluate front with
      | (.ok _, after) => after.evaluate back
      | (.error e, after) => (.error e, after) := by
  rw [evaluate_of_readAll (Form.readAll_append_newline hfront hback),
    evaluate_of_readAll hfront, evaluateForms_append _ _ hne, Run.outcome_bind]
  rcases (evaluateForms session.setting forms).outcome session.world with ⟨e | v, world⟩
  · rfl
  · -- in the one run the chunks of the first part are in front of those of the second
    have hchunks := ignoresChunks_evaluateForms session.setting others world.chunks
      (session.resume world).world
    rw [behind_world_resume] at hchunks
    simp only [hchunks, resume_behind]
    exact (@evaluate_of_readAll (session.resume world) _ _ hback).symm

/-- Two texts that can be read, the second with a form in it, are evaluated one below the other as
    they are one after the other. No form finds out what was flushed before it. A text that cannot
    be read changes nothing. -/
theorem evaluate_in_parts (session : Session) :
    (∀ (front back : String) (forms others : List Form),
      Form.readAll session.config.reading front = .ok forms →
      Form.readAll session.config.reading back = .ok others → others ≠ [] →
      session.evaluate (front ++ "\n" ++ back) =
        match session.evaluate front with
        | (.ok _, after) => after.evaluate back
        | (.error e, after) => (.error e, after)) ∧
      (∀ (levels : Nat) (form : Form) (scope : Scope) (earlier : Array String) (world : World),
        (Evaluation.evalAt session.setting levels form scope).outcome (world.behind earlier) =
          (((Evaluation.evalAt session.setting levels form scope).outcome world).1,
            ((Evaluation.evalAt session.setting levels form scope).outcome world).2.behind
              earlier)) ∧
      ∀ (source : String) (fault : ParseError),
        Form.readAll session.config.reading source = .error fault →
        session.evaluate source = (.error (.parse fault), session) :=
  ⟨fun _ _ _ _ => evaluate_append_newline,
    fun levels form scope => (Evaluation.ignoresChunks session.setting levels).1 form scope,
    fun _ _ => evaluate_of_readAll_error⟩

/-- A session with a procedure that flushes nothing. -/
def quiet : Session where
  config := {}
  program := ⟨[("Quiet", ⟨"Quiet", [], []⟩)]⟩

/-- What is flushed in the first line, which ends with a comment, is no answer of the call in the
    second one. -/
theorem evaluate_in_parts_quiet :
    (quiet.evaluate ("(OUTPUT_TO_USER_BUFFER \"T\" \"m\") (FLUSH_USER_OUTPUT_BUFFER) ;; and then"
      ++ "\n" ++ "(CALL_PROCEDURE Quiet)")).1 = .ok .absent := by
  let front := "(OUTPUT_TO_USER_BUFFER \"T\" \"m\") (FLUSH_USER_OUTPUT_BUFFER) ;; and then"
  let back := "(CALL_PROCEDURE Quiet)"
  have hfront : Form.readAll quiet.config.reading front =
      .ok [.list [.symbol "OUTPUT_TO_USER_BUFFER", .text "T", .text "m"],
        .list [.symbol "FLUSH_USER_OUTPUT_BUFFER"]] :=
    eq_ok_of_toOption (by decide +kernel)
  have hback : Form.readAll quiet.config.reading back =
      .ok [.list [.symbol "CALL_PROCEDURE", .symbol "Quiet"]] :=
    eq_ok_of_toOption (by decide +kernel)
  rw [(evaluate_in_parts quiet).1 front back _ _ hfront hback (by simp)]
  exact eq_ok_of_toOption (by decide +kernel)

end TurnScript.Session
