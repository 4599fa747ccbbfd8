import TurnScript.Proofs.Console.Core
import TurnScript.Proofs.Console.Typing
import TurnScript.Proofs.Session.Turn

/-!
# The console as a machine of three commands

What the console does with the core program, without the program: a line is a command to help, to
start a project or to apologise (`Command`), each of them is answered by one line of output
(`Command.saying`), and all that is remembered of them is the last title and the details of the last
command (`Machine`).

The session of the console is at any time that of a machine (`Machine.session`), whatever its
journal. One turn of it is one step of the machine (`runTurn_dispatch`), so is the reply to a line
(`respond_session`), and by induction a whole conversation (`converse_session`).
-/

namespace TurnScript.Console

/-! ## The machine -/

/-- What is said to the program. -/
inductive Command
  | help
  | start (title : String)
  | unknown (line : String)

namespace Command

/-- The command that a line is, by its first word. -/
def ofLine (line : String) : Command :=
  let (word, behind) := Text.splitWord line
  if lowerCase word = "help" then help
  else if lowerCase word = "start" ∧ Text.trim behind ≠ "" then start (Text.trim behind)
  else unknown line

/-- What is recorded of a command. -/
def details : Command → Value
  | help => .command "HELP" []
  | start title => .command "START" [title]
  | unknown line => .command "UNKNOWN" [line]

/-- The title of a project that is started. -/
def title? : Command → Option String
  | start title => some title
  | help | unknown _ => none

/-- The answer to a command. -/
def saying : Command → String
  | help => "[AI_PROVIDE_DATA] Commands: START <description>, HELP"
  | start title => "[AI_ACKNOWLEDGE_INTENT] OK, starting project: " ++ title
  | unknown _ => "[AI_ERROR] Sorry, I did not understand that command."

/-- Whatever is answered is tagged as an answer. -/
theorem tag_saying (c : Command) : "[AI_".toList <+: c.saying.toList := by
  cases c with
  | help =>
    have hhelp : "[AI_".toList <+: help.saying.toList := by decide
    exact hhelp
  | start title =>
    have hfront : "[AI_".toList <+: "[AI_ACKNOWLEDGE_INTENT] OK, starting project: ".toList := by
      decide
    exact hfront.trans ⟨title.toList, String.toList_append.symm⟩
  | unknown line =>
    have hunknown : "[AI_".toList <+: (unknown "").saying.toList := by decide
    exact hunknown

theorem saying_ne_empty (c : Command) : c.saying ≠ "" := by
  intro hempty
  have htag := c.tag_saying
  rw [hempty] at htag
  revert htag
  decide

end Command

/-- What is remembered of the commands. -/
structure Machine where
  /-- The title of the last project. -/
  title? : Option String := none
  /-- The details of the last command. -/
  details? : Option Value := none

namespace Machine

/-- The machine after a command. -/
def hear (m : Machine) (c : Command) : Machine where
  title? := c.title?.or m.title?
  details? := some c.details

/-- The machine after several commands: the last title and the last details count. -/
def ofCommands (cs : List Command) : Machine where
  title? := (cs.filterMap Command.title?).getLast?
  details? := (cs.map Command.details).getLast?

/-- What the machine remembers, as a store: the title under `proj` and the details under `session`,
    if there are any, and the mode. -/
def store (m : Machine) : Store where
  root :=
    (m.title?.map fun title => ("proj", .map [("title", .text title)])).toList ++
      (m.details?.map fun details =>
        ("session", .map [("parsed_command_details", details)])).toList ++
      [("sys", .map [("current_mode", .text "IDLE")])]

/-- What is printed in answer to what a line holds between blanks: a request of the console's own
    is for its help, for what the machine remembers or for the end, and all else is a command. -/
def texts (m : Machine) (said : String) : List String :=
  if said = "" then []
  else if said = ":help" then helpTexts
  else if said = ":state" then [m.store.snapshot.toJson.pretty]
  else if said = ":quit" ∨ said = ":exit" then [farewell]
  else [(Command.ofLine said).saying]

/-- The machine afterwards. Only commands are heard. -/
def next (m : Machine) (said : String) : Machine :=
  if said ∈ ["", ":help", ":state", ":quit", ":exit"] then m else m.hear (Command.ofLine said)

/-- What is printed in answer to some lines, up to the first that asks for the end. -/
def transcript (m : Machine) : List String → List String
  | [] => [farewell]
  | line :: rest =>
    let said := Text.trim line
    if said = ":quit" ∨ said = ":exit" then m.texts said
    else m.texts said ++ (m.next said).transcript rest

/-- The session of the console that remembers what the machine does. -/
def session (m : Machine) (journal : Array Event) : Session where
  config := {}
  program := core
  store := m.store
  journal := journal

end Machine

/-- The commands among some lines. -/
def commands (lines : List String) : List Command :=
  ((lines.map Text.trim).filter (· ∉ ["", ":help", ":state", ":quit", ":exit"])).map Command.ofLine

theorem hear_ofCommands (cs : List Command) (c : Command) :
    (Machine.ofCommands cs).hear c = Machine.ofCommands (cs ++ [c]) := by
  cases h : c.title? <;> simp [Machine.hear, Machine.ofCommands, List.filterMap_append, h]

/-! ## What is remembered -/

/-- The record of a command. -/
theorem set_details (m : Machine) (details : Value) :
    m.store.set Session.defaultContextPath details =
      .ok { m with details? := some details : Machine }.store := by
  have hpath : Path.segments? Session.defaultContextPath =
      some ["session", "parsed_command_details"] := by decide
  rcases m with ⟨_ | title, _ | before⟩ <;>
    simp only [Store.set, hpath, Store.put, Machine.store, Option.map_none, Option.map_some,
      Option.toList_none, Option.toList_some, Option.getD_none, Option.getD_some, List.append_nil,
      List.nil_append, List.cons_append, Keyed.find?, Keyed.insert, String.reduceEq,
      String.reduceLT, String.lt_irrefl, ↓reduceIte]

/-- The title of a project. -/
theorem set_title (m : Machine) (title : String) :
    m.store.set "proj.title" (.text title) =
      .ok { m with title? := some title : Machine }.store := by
  have hpath : Path.segments? "proj.title" = some ["proj", "title"] := by decide
  rcases m with ⟨_ | before, _ | details⟩ <;>
    simp only [Store.set, hpath, Store.put, Machine.store, Option.map_none, Option.map_some,
      Option.toList_none, Option.toList_some, Option.getD_none, Option.getD_some, List.append_nil,
      List.nil_append, List.cons_append, Keyed.find?, Keyed.insert, String.reduceEq,
      String.reduceLT, String.lt_irrefl, ↓reduceIte]

theorem set_mode :
    ({} : Store).set "sys.current_mode" (.text "IDLE") = .ok ({} : Machine).store := by
  have hpath : Path.segments? "sys.current_mode" = some ["sys", "current_mode"] := by
    decide
  simp only [Store.set, hpath, Store.put, Machine.store, Option.map_none, Option.toList_none,
    Option.getD_none, List.append_nil, List.nil_append, Keyed.find?, Keyed.insert]

/-! ## Turns -/

/-- A turn whose run flushes one chunk, and nothing else, answers with this chunk. -/
theorem runTurn_of_leads {session : Session} {procedure text : String} {argument : Value}
    {w : World}
    (hdefined : session.program.defines procedure) (houtput : session.output = {})
    (h : (session.turn procedure argument).Leads { store := session.store } () w)
    (hw : w.output = {}) (hchunks : w.chunks = #[text]) :
    ∃ journal, session.runTurn procedure argument =
      (text, { session with store := w.store, journal }) := by
  obtain ⟨p, hp⟩ := Option.isSome_iff_exists.1 hdefined
  have hlookUp := Program.lookUp_of_some hp
  -- nothing was put out before, so the run begins where it was shown to
  have hbegun : (session.logged (.invoking procedure)).world =
      { ({ store := session.store } : World) with
        journal := (session.logged (.invoking procedure)).journal } := by
    simp [Session.world, Session.logged, houtput]
  obtain ⟨journal, hrun⟩ := h (session.logged (.invoking procedure)).journal
  rw [← hbegun] at hrun
  have htext : Session.collect w.chunks.toList (Output.Buffer.flush {}).1 = text := by
    rw [hchunks]
    by_cases hempty : text = ""
    · subst hempty
      rfl
    · simp [Session.collect, Output.displayAll, hempty]
  refine ⟨journal, ?_⟩
  simp only [Session.runTurn, Session.execute, hlookUp, hrun, Session.flush, Session.resume, hw,
    htext]
  rw [houtput]
  rfl

/-- The chunk of a single entry. -/
theorem chunks_flushed_say (store : Store) (tag message : String) :
    (({ store } : World).say tag message).flushed.chunks =
      #["[" ++ tag ++ "] " ++ message] := by
  have hdisplay : Output.displayAll [⟨tag, message⟩] = "[" ++ tag ++ "] " ++ message :=
    String.intercalate_singleton
  rw [← hdisplay]
  rfl

/-- A turn without an argument calls its procedure, and does nothing else. -/
theorem leads_turn_absent {session : Session} {procedure : String} {v : Value} {w w' : World}
    (h : (Evaluation.callAt session.setting session.config.depthLimit procedure []).Leads w v w') :
    (session.turn procedure .absent).Leads w () w' :=
  h.discard

/-- A turn records its argument before the call. -/
theorem leads_turn {session : Session} {procedure path : String} {argument v : Value}
    {store : Store} {w w' : World} (hargument : argument.isAbsent = false)
    (hpath : session.config.contextPath = some path) (hset : w.store.set path argument = .ok store)
    (h : (Evaluation.callAt session.setting session.config.depthLimit procedure
      [argument]).Leads { w with store } v w') :
    (session.turn procedure argument).Leads w () w' := by
  rw [Session.turn, Session.recordPath?, hargument, hpath]
  exact (Run.Leads.write hset).bind h.discard

section

variable (m : Machine) (journal : Array Event)

/-- A turn with a command is answered by the machine. -/
theorem runTurn_dispatch (c : Command) :
    ∃ journal', (m.session journal).runTurn Session.dispatchProcedure c.details =
      (c.saying, (m.hear c).session journal') := by
  have hcore : (m.session journal).setting.program = core := rfl
  have hdefined : (m.session journal).program.defines Session.dispatchProcedure := rfl
  cases c with
  | help =>
    obtain ⟨_, hhandler⟩ := @callAt_handleHelpCommand _ 247 _ hcore (.list [])
    obtain ⟨_, hcall⟩ := @callAt_dispatchUserCommand _ 250 _ hcore "HELP" _ [] _ _
      (by simp) hhandler
    exact runTurn_of_leads hdefined rfl (leads_turn rfl rfl (set_details m _) hcall) rfl
      (chunks_flushed_say _ _ _)
  | start title =>
    let recorded : Machine := { m with details? := some (Command.start title).details }
    obtain ⟨_, hhandler⟩ := @callAt_handleStartCommand _ 247 { store := recorded.store } hcore
      title _ (set_title recorded title)
    obtain ⟨_, hcall⟩ := @callAt_dispatchUserCommand _ 250 _ hcore "START" _ [title] _ _
      (by simp) hhandler
    have htext : "[" ++ "AI_ACKNOWLEDGE_INTENT" ++ "] " ++ "OK, starting project: " =
        "[AI_ACKNOWLEDGE_INTENT] OK, starting project: " := by decide
    have hchunks := chunks_flushed_say recorded.store "AI_ACKNOWLEDGE_INTENT"
      ("OK, starting project: " ++ title)
    rw [← String.append_assoc, htext] at hchunks
    exact runTurn_of_leads hdefined rfl (leads_turn rfl rfl (set_details m _) hcall) rfl hchunks
  | unknown line =>
    obtain ⟨_, hhandler⟩ := @callAt_handleUnknownCommand _ 249 _ hcore (.list [.text line])
    obtain ⟨_, hcall⟩ := @callAt_dispatchUserCommand _ 250 _ hcore "UNKNOWN" _ [line] _ _
      (by simp) hhandler
    exact runTurn_of_leads hdefined rfl (leads_turn rfl rfl (set_details m _) hcall) rfl
      (chunks_flushed_say _ _ _)

end

/-- The first turn leaves the session of a machine that has heard nothing. -/
theorem runTurn_init : ∃ journal,
    ({ config := {}, program := core } : Session).runTurn Session.initProcedure .absent =
      (Command.help.saying, ({} : Machine).session journal) := by
  obtain ⟨_, hcall⟩ := @callAt_onSystemInit { program := core } 251 { store := {} } rfl _ set_mode
  have hturn :=
    @leads_turn_absent { config := {}, program := core } Session.initProcedure _ _ _ hcall
  exact runTurn_of_leads rfl rfl hturn rfl (chunks_flushed_say _ _ _)

/-! ## Lines -/

/-- A line is classified as its command. -/
theorem classify_eq (line : String) : classify line = (Command.ofLine line).details := by
  have hwords : "start" ≠ "help" := by decide
  rw [classify, Command.ofLine]
  generalize Text.splitWord line = words
  obtain ⟨word, behind⟩ := words
  dsimp only
  generalize lowerCase word = first
  generalize Text.trim behind = description
  split
  case h_1 => rw [if_pos rfl, Command.details]
  case h_2 =>
    have hnot : ¬ ("start" = "start" ∧ "" ≠ "") := fun h => h.2 rfl
    rw [if_neg hwords, if_neg hnot, Command.details]
  case h_3 hne => rw [if_neg hwords, if_pos ⟨rfl, hne⟩, Command.details]
  case h_4 hhelp hstart _ =>
    have hnot : ¬ (first = "start" ∧ description ≠ "") := fun h => hstart h.1
    rw [if_neg hhelp, if_neg hnot, Command.details]

/-- What a line asks for that does not ask for an evaluation. -/
theorem request?_eq {line : String} (heval : ¬ ":eval".toList <+: (Text.trim line).toList) :
    request? line =
      if Text.trim line = "" then none
      else if Text.trim line = ":help" then some .help
      else if Text.trim line = ":state" then some .state
      else if Text.trim line = ":quit" ∨ Text.trim line = ":exit" then some .quit
      else some (.say (Text.trim line)) := by
  simp only [request?]
  split
  case h_1 heq => simp [heq]
  case h_2 heq => simp [heq]
  case h_3 heq => simp [heq]
  case h_4 heq => simp [heq]
  case h_5 heq => simp [heq]
  case h_6 forms heq _ _ _ _ _ =>
    refine absurd ⟨forms, ?_⟩ heval
    rw [heq]
    rfl
  case h_7 hempty hhelp hstate hquit hexit _ =>
    rw [if_neg hempty, if_neg hhelp, if_neg hstate, if_neg (not_or.2 ⟨hquit, hexit⟩)]

theorem shown_saying (c : Command) : shown c.saying = [c.saying] := by
  rw [shown, if_neg]
  rw [String.isEmpty_iff]
  exact c.saying_ne_empty

/-- The reply to a line is that of the machine. -/
theorem respond_session (m : Machine) (journal : Array Event) {line typed : String}
    (htyped : typed? line = some typed) (heval : ¬ ":eval".toList <+: (Text.trim typed).toList) :
    ∃ journal', respond (m.session journal) line =
      ({ texts := m.texts (Text.trim typed)
         exitCode? :=
          if Text.trim typed = ":quit" ∨ Text.trim typed = ":exit" then some 0 else none },
        (m.next (Text.trim typed)).session journal') := by
  rw [respond, htyped]
  simp only [request?_eq heval]
  generalize Text.trim typed = said
  by_cases hempty : said = ""
  · subst hempty
    exact ⟨journal, rfl⟩
  by_cases hhelp : said = ":help"
  · subst hhelp
    exact ⟨journal, rfl⟩
  by_cases hstate : said = ":state"
  · subst hstate
    exact ⟨journal, rfl⟩
  by_cases hquit : said = ":quit" ∨ said = ":exit"
  · refine ⟨journal, ?_⟩
    obtain rfl | rfl := hquit <;> rfl
  · obtain ⟨journal', hturn⟩ := runTurn_dispatch m journal (Command.ofLine said)
    have hsaid : ¬ said ∈ ["", ":help", ":state", ":quit", ":exit"] := by
      simpa [hempty, hhelp, hstate] using hquit
    refine ⟨journal', ?_⟩
    rw [if_neg hempty, if_neg hhelp, if_neg hstate, if_neg hquit, if_neg hquit, Machine.texts,
      if_neg hempty, if_neg hhelp, if_neg hstate, if_neg hquit, Machine.next, if_neg hsaid]
    simp only [answer, classify_eq, hturn, shown_saying]

/-- A conversation is that of the machine, and ends well. -/
theorem converse_session (m : Machine) (journal : Array Event) {lines typed : List String}
    (htyped : List.Forall₂ (typed? · = some ·) lines typed)
    (heval : ∀ line ∈ typed, ¬ ":eval".toList <+: (Text.trim line).toList) :
    converse (m.session journal) lines = (m.transcript typed, 0) := by
  induction htyped generalizing m journal with
  | nil => rfl
  | @cons line t lines typed ht _ ih =>
    obtain ⟨journal', hreply⟩ := respond_session m journal ht (heval t List.mem_cons_self)
    have hrest := ih (m.next (Text.trim t)) journal'
      fun line hline => heval line (List.mem_cons_of_mem _ hline)
    rw [converse, hreply, Machine.transcript]
    by_cases hquit : Text.trim t = ":quit" ∨ Text.trim t = ":exit"
    · simp only [if_pos hquit]
    · simp only [if_neg hquit, hrest]

/-- The session after some lines. -/
def after (session : Session) (lines : List String) : Session :=
  lines.foldl (fun session line => (respond session line).2) session

/-- After some lines, the machine has heard the commands among them. -/
theorem after_session (m : Machine) (journal : Array Event) {lines typed : List String}
    (htyped : List.Forall₂ (typed? · = some ·) lines typed)
    (heval : ∀ line ∈ typed, ¬ ":eval".toList <+: (Text.trim line).toList) :
    ∃ journal', after (m.session journal) lines =
      ((commands typed).foldl Machine.hear m).session journal' := by
  induction htyped generalizing m journal with
  | nil => exact ⟨journal, rfl⟩
  | @cons line t lines typed ht _ ih =>
    obtain ⟨journal₁, hreply⟩ := respond_session m journal ht (heval t List.mem_cons_self)
    obtain ⟨journal₂, hrest⟩ := ih (m.next (Text.trim t)) journal₁
      fun line hline => heval line (List.mem_cons_of_mem _ hline)
    refine ⟨journal₂, ?_⟩
    rw [after, List.foldl_cons, hreply]
    refine hrest.trans ?_
    by_cases hsaid : Text.trim t ∈ ["", ":help", ":state", ":quit", ":exit"]
    · have hcommands : commands (t :: typed) = commands typed := by
        rw [commands, List.map_cons, List.filter_cons_of_neg
          (by simpa only [decide_eq_true_eq, not_not] using hsaid)]
        rfl
      rw [hcommands, Machine.next, if_pos hsaid]
    · have hcommands : commands (t :: typed) = Command.ofLine (Text.trim t) :: commands typed := by
        rw [commands, List.map_cons, List.filter_cons_of_pos
          (by simpa only [decide_eq_true_eq] using hsaid)]
        rfl
      rw [hcommands, Machine.next, if_neg hsaid, List.foldl_cons]

/-- Hearing commands one after the other, the last title and the last details are kept. -/
theorem foldl_hear (before : List Command) (cs : List Command) :
    cs.foldl Machine.hear (Machine.ofCommands before) = Machine.ofCommands (before ++ cs) := by
  induction cs generalizing before with
  | nil => rw [List.foldl_nil, List.append_nil]
  | cons c cs ih =>
    rw [List.foldl_cons, hear_ofCommands, ih, List.append_assoc, List.singleton_append]

end TurnScript.Console
