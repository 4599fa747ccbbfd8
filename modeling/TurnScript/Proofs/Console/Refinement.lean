import TurnScript.Proofs.Console.Machine

/-!
# What the console prints

The console on a whole text is the machine on the lines as they are typed (`run_eq_transcript`), and
what the program says is never an error or a warning (`not_warns_saying`).

* `run_refines_machine`: both, and what is remembered after any number of lines.
-/

namespace TurnScript.Console

/-! ## Errors and warnings -/

/-- Some line of the text is an error or a warning. -/
def Warns (text : String) : Prop :=
  ∃ line ∈ Text.lines text,
    "ERROR:".toList <+: line.toList ∨ "[WARNING]".toList <+: line.toList

theorem mem_of_mem_trim {c : Char} {s : String} (hc : c ∈ (Text.trim s).toList) : c ∈ s.toList := by
  rw [Text.trim, String.toList_ofList, Text.trimEnd, List.mem_reverse] at hc
  have hstart := List.mem_reverse.1 ((List.dropWhile_sublist _).subset hc)
  exact (List.dropWhile_sublist _).subset hstart

theorem mem_of_mem_splitWord {c : Char} {s : String} (hc : c ∈ (Text.splitWord s).2.toList) :
    c ∈ s.toList := by
  rw [Text.splitWord, String.toList_ofList] at hc
  exact (List.dropWhile_sublist _).subset (List.mem_of_mem_drop hc)

/-- The answer to a command is a line, if its title is. -/
theorem not_mem_saying {c : Command} (htitle : ∀ title ∈ c.title?, '\n' ∉ title.toList) :
    '\n' ∉ c.saying.toList := by
  cases c with
  | help =>
    have hhelp : '\n' ∉ Command.help.saying.toList := by decide
    exact hhelp
  | start title =>
    have hfront : '\n' ∉ "[AI_ACKNOWLEDGE_INTENT] OK, starting project: ".toList := by
      decide
    have hsaying : (Command.start title).saying.toList =
        "[AI_ACKNOWLEDGE_INTENT] OK, starting project: ".toList ++ title.toList :=
      String.toList_append
    intro hc
    obtain hc | hc := List.mem_append.1 (hsaying.symm ▸ hc)
    · exact hfront hc
    · exact htitle title rfl hc
  | unknown line =>
    have hunknown : '\n' ∉ (Command.unknown "").saying.toList := by decide
    exact hunknown

/-- The title that a line gives is part of the line. -/
theorem mem_of_mem_title {line title : String} (h : title ∈ (Command.ofLine line).title?) {c : Char}
    (hc : c ∈ title.toList) : c ∈ line.toList := by
  rw [Command.ofLine] at h
  dsimp only at h
  split at h
  · cases h
  · split at h
    · obtain rfl : Text.trim (Text.splitWord line).2 = title := Option.some.inj h
      exact mem_of_mem_splitWord (mem_of_mem_trim hc)
    · cases h

/-- No answer is an error or a warning. -/
theorem not_warns_saying {c : Command} (htitle : ∀ title ∈ c.title?, '\n' ∉ title.toList) :
    ¬ Warns c.saying := by
  rintro ⟨answer, hanswer, hwarns⟩
  rw [Text.eq_of_mem_lines (not_mem_saying htitle) hanswer] at hwarns
  have htag := c.tag_saying
  obtain herror | hwarning := hwarns
  · have hprefix : "[AI_".toList <+: "ERROR:".toList :=
      List.prefix_of_prefix_length_le htag herror (by decide)
    revert hprefix
    decide
  · have hprefix : "[AI_".toList <+: "[WARNING]".toList :=
      List.prefix_of_prefix_length_le htag hwarning (by decide)
    revert hprefix
    decide

/-! ## Whole conversations -/

/-- The console begins as a machine that has heard nothing. -/
theorem start_opened : ∃ journal, start { config := {}, program := core } =
    ({ texts := banner ++ [Command.help.saying] }, ({} : Machine).session journal) := by
  obtain ⟨journal, hinit⟩ := runTurn_init
  refine ⟨journal, ?_⟩
  rw [start, hinit]
  simp only [shown_saying]

/-- The console prints what the machine does. -/
theorem run_eq_transcript {input : String} {typed : List String}
    (htyped : List.Forall₂ (typed? · = some ·) (Text.lines input) typed)
    (heval : ∀ line ∈ typed, ¬ ":eval".toList <+: (Text.trim line).toList) :
    Console.run input =
      { exitCode := 0
        output := Text.ofLines
          (banner ++ Command.help.saying :: ({} : Machine).transcript typed) } := by
  obtain ⟨journal, hstart⟩ := start_opened
  have hconverse := converse_session {} journal htyped heval
  have happend : (banner ++ [Command.help.saying]) ++ ({} : Machine).transcript typed =
      banner ++ Command.help.saying :: ({} : Machine).transcript typed := List.append_assoc _ _ _
  rw [Console.run, openSession_eq, runFrom]
  simp only [hstart, hconverse, happend]

/-- The console breaks down at a line that cannot be read. -/
theorem exitCode_run_of_unreadable {input line : String} {rest : List String}
    (hlines : Text.lines input = line :: rest) (h : typed? line = none) :
    (Console.run input).exitCode = 1 := by
  obtain ⟨journal, hstart⟩ := start_opened
  rw [Console.run, openSession_eq, runFrom]
  simp only [hstart, hlines, converse, respond, h]

/-- The console on a text none of whose lines, as they are typed, asks for an evaluation: it ends
    well, and prints what the machine does. The program never says an error or a warning, and after
    any number of lines the store holds the mode, the title of the last project and the details of
    the last command. -/
theorem run_refines_machine (input : String) (typed : List String)
    (htyped : List.Forall₂ (typed? · = some ·) (Text.lines input) typed)
    (heval : ∀ line ∈ typed, ¬ ":eval".toList <+: (Text.trim line).toList) :
    Console.run input =
        { exitCode := 0
          output := Text.ofLines
            (banner ++ Command.help.saying :: ({} : Machine).transcript typed) } ∧
      ∃ opened, openSession = .ok opened ∧
        ¬ Warns (opened.runTurn Session.initProcedure .absent).1 ∧
        ∀ k, (after (start opened).2 ((Text.lines input).take k)).store =
            (Machine.ofCommands (commands (typed.take k))).store ∧
          ∀ line, typed[k]? = some line →
            ¬ Warns ((after (start opened).2 ((Text.lines input).take k)).runTurn
              Session.dispatchProcedure (classify (Text.trim line))).1 := by
  refine ⟨run_eq_transcript htyped heval, _, openSession_eq, ?_, fun k => ?_⟩
  · obtain ⟨journal, hinit⟩ := runTurn_init
    rw [hinit]
    exact not_warns_saying nofun
  · obtain ⟨journal, hstart⟩ := start_opened
    have htaken : List.Forall₂ (typed? · = some ·) ((Text.lines input).take k) (typed.take k) :=
      List.forall₂_take k htyped
    obtain ⟨journal', hafter⟩ := after_session {} journal htaken
      fun line hline => heval line (List.mem_of_mem_take hline)
    have hheard : (commands (typed.take k)).foldl Machine.hear {} =
        Machine.ofCommands (commands (typed.take k)) := foldl_hear [] _
    rw [hheard] at hafter
    simp only [hstart, hafter]
    refine ⟨rfl, fun line hline => ?_⟩
    obtain ⟨_, hturn⟩ := runTurn_dispatch (Machine.ofCommands (commands (typed.take k))) journal'
      (Command.ofLine (Text.trim line))
    have hnewline : '\n' ∉ line.toList :=
      not_mem_of_typed htyped (fun _ => Text.not_mem_of_mem_lines) line (List.mem_of_getElem? hline)
    rw [classify_eq, hturn]
    dsimp only
    exact not_warns_saying fun title htitle hc =>
      hnewline (mem_of_mem_trim (mem_of_mem_title htitle hc))

/-- A project is started, and then the console is left. -/
theorem run_refines_machine_bridge :
    Console.run "start bridge\n:quit\n" =
      { exitCode := 0
        output := Text.ofLines (banner ++ [Command.help.saying,
          "[AI_ACKNOWLEDGE_INTENT] OK, starting project: bridge", farewell]) } := by
  have hlines : Text.lines "start bridge\n:quit\n" = ["start bridge", ":quit"] := by decide
  have htyped : List.Forall₂ (typed? · = some ·) (Text.lines "start bridge\n:quit\n")
      ["start bridge", ":quit"] := by
    rw [hlines]
    exact .cons (typed?_eq_self (by decide))
      (.cons (typed?_eq_self (by decide)) .nil)
  have heval : ∀ line ∈ ["start bridge", ":quit"],
      ¬ ":eval".toList <+: (Text.trim line).toList := by decide
  have htranscript : ({} : Machine).transcript ["start bridge", ":quit"] =
      ["[AI_ACKNOWLEDGE_INTENT] OK, starting project: bridge", farewell] := by decide
  rw [(run_refines_machine _ _ htyped heval).1, htranscript]

/-- A letter with so many accents that its size does not fit in a byte, and a backspace. -/
def overlong : List Char := 'a' :: (List.replicate 128 '\u0301' ++ [backspace])

/-- The lines of a text are not the lines that are typed. A backspace before `help` takes nothing
    back, so that the word is heard, while the machine would not know it with the backspace. And
    there are lines that cannot be read, at which the console does not end well. -/
theorem run_backspace :
    (∀ line ∈ Text.lines "\x08help\n", ¬ ":eval".toList <+: (Text.trim line).toList) ∧
      Console.run "\x08help\n" ≠
        { exitCode := 0
          output := Text.ofLines (banner ++ Command.help.saying ::
            ({} : Machine).transcript (Text.lines "\x08help\n")) } ∧
      (Console.run (String.ofList overlong)).exitCode = 1 := by
  have hlines : Text.lines "\x08help\n" = ["\x08help"] := by decide
  refine ⟨by rw [hlines]; decide, ?_, ?_⟩
  · have htyped : List.Forall₂ (typed? · = some ·) (Text.lines "\x08help\n") ["help"] := by
      rw [hlines]
      exact .cons (by decide +kernel) .nil
    have hrun := run_eq_transcript htyped (by decide)
    rw [hrun, hlines]
    intro heq
    have houtput := congrArg Outcome.output heq
    revert houtput
    decide +kernel
  · have hnewline : '\n' ∉ overlong := by decide
    have hline : Text.lines (String.ofList overlong) = [String.ofList overlong] := by
      rw [Text.lines, String.toList_ofList, Text.linesOf_eq_singleton (by decide) hnewline,
        List.map_singleton]
    have hgraphemes : Text.graphemes overlong =
        ['a' :: List.replicate 128 '\u0301', [backspace]] := by decide +kernel
    have hunreadable : typed? (String.ofList overlong) = none := by
      rw [typed?, String.toList_ofList, hgraphemes, ← Option.isNone_iff_eq_none]
      decide +kernel
    exact exitCode_run_of_unreadable hline hunreadable

end TurnScript.Console
