import TurnScript.Session

/-!
# Loading a session

A session is loaded from a text that can be read and whose forms make a program (`loading_eq_ok`).
It begins with nothing but the program, and what was logged on the way is the check of that program.
-/

namespace TurnScript.Session

variable {config : Config} {source : String} {session : Session}

/-- What a session that was loaded is, and what was logged on the way. -/
theorem loading_eq_ok (h : load config source = .ok session) :
    ∃ forms program, Form.readAll config.reading source = .ok forms ∧
      Program.ofForms forms = .ok program ∧ session = { config, program } ∧
      (loading config source).records =
        (Program.skipped forms).map LogRecord.skippedForm ++ program.checkRecords ++
          [.loaded program.size program.unknownOperators.length] := by
  rw [load, loading] at h
  rw [loading]
  cases hread : Form.readAll config.reading source with
  | error e => simp [hread] at h
  | ok forms =>
    cases hprogram : Program.ofForms forms with
    | error e => simp [hread, hprogram] at h
    | ok program =>
      simp only [hread, hprogram, Except.ok.injEq] at h
      exact ⟨forms, program, rfl, hprogram, h.symm, by simp only [hprogram]⟩

/-- A text that is read and makes a program is loaded. -/
theorem load_of_scanAll {program : Program}
    (h : (Form.scanAll config.reading source).toOption.bind
      (fun forms => (Program.ofForms forms).toOption) = some program) :
    load config source = .ok { config, program } := by
  cases hforms : Form.scanAll config.reading source with
  | error l => simp [hforms, Except.toOption] at h
  | ok forms =>
    cases hprogram : Program.ofForms forms with
    | error e => simp [hforms, hprogram, Except.toOption] at h
    | ok loaded =>
      obtain rfl : loaded = program := by simpa [hforms, hprogram, Except.toOption] using h
      have hread : Form.readAll config.reading source = .ok forms := by
        rw [Form.readAll, hforms]
        rfl
      simp only [load, loading, hread, hprogram]

/-- Nothing is put out while a session is loaded. -/
theorem output_of_load (h : load config source = .ok session) : session.output = {} := by
  obtain ⟨_, _, _, _, rfl, _⟩ := loading_eq_ok h
  rfl

end TurnScript.Session
