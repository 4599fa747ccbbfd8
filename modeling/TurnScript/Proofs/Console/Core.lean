import TurnScript.Console
import TurnScript.Proofs.Evaluation.Rules
import TurnScript.Proofs.Session.Loading

/-!
# What the core program does

The console's program as procedures (`core`), and for each of them what a call does to the store and
the output. The three commands that are told apart are three branches of one form (`branch`).
-/

namespace TurnScript.Console

open Evaluation

/-! ## The program -/

/-- The form `(operator argument ...)`. -/
def apply (operator : String) (arguments : List Form) : Form :=
  .list (.symbol operator :: arguments)

def onSystemInit : Procedure where
  name := "OnSystemInit"
  parameters := []
  body :=
    [apply "SET_STATE" [.symbol "sys.current_mode", .text "IDLE"],
      apply "CALL_PROCEDURE" [.symbol "OutputGeneralHelp"],
      apply "FLUSH_USER_OUTPUT_BUFFER" []]

def onUserInput : Procedure where
  name := "OnUserInput"
  parameters := ["raw_text"]
  body := [apply "CALL_PROCEDURE" [.symbol "DispatchUserCommand", .symbol "raw_text"]]

/-- The form that calls `handler` with the arguments of the command, if this is its name. -/
def branch (name handler : String) : Form :=
  apply "IF" [apply "EQ" [.symbol "commandName", .text name],
    apply "CALL_PROCEDURE" [.symbol handler,
      apply "MAP_GET_VALUE" [.symbol "commandDetails", .text "args"]]]

def dispatchUserCommand : Procedure where
  name := "DispatchUserCommand"
  parameters := ["commandDetails"]
  body :=
    [apply "LET" [.list [.list [.symbol "commandName",
        apply "MAP_GET_VALUE" [.symbol "commandDetails", .text "command"]]],
      branch "HELP" "HandleHelpCommand",
      branch "START" "HandleStartCommand",
      branch "UNKNOWN" "HandleUnknownCommand"]]

def handleStartCommand : Procedure where
  name := "HandleStartCommand"
  parameters := ["argsList"]
  body :=
    [apply "ACKNOWLEDGE_AND_LOG" [.text "CMD_START", .text "START command received.",
        .text "AI_ACKNOWLEDGE_INTENT", apply "STRING_CONCAT" [.text "OK, starting project: ",
          apply "LIST_GET_ITEM" [.symbol "argsList", .number 0]]],
      apply "SET_STATE" [.symbol "proj.title",
        apply "LIST_GET_ITEM" [.symbol "argsList", .number 0]],
      apply "FLUSH_USER_OUTPUT_BUFFER" []]

def handleHelpCommand : Procedure where
  name := "HandleHelpCommand"
  parameters := ["argsList"]
  body :=
    [apply "CALL_PROCEDURE" [.symbol "OutputGeneralHelp"],
      apply "FLUSH_USER_OUTPUT_BUFFER" []]

def handleUnknownCommand : Procedure where
  name := "HandleUnknownCommand"
  parameters := ["argsList"]
  body :=
    [apply "OUTPUT_TO_USER_BUFFER" [.text "AI_ERROR",
        .text "Sorry, I did not understand that command.", .symbol "NIL"],
      apply "FLUSH_USER_OUTPUT_BUFFER" []]

def outputGeneralHelp : Procedure where
  name := "OutputGeneralHelp"
  parameters := []
  body :=
    [apply "OUTPUT_TO_USER_BUFFER" [.text "AI_PROVIDE_DATA",
      .text "Commands: START <description>, HELP", .symbol "NIL"]]

/-- The procedures of the console's program. -/
def core : Program where
  procedures :=
    [dispatchUserCommand, handleHelpCommand, handleStartCommand, handleUnknownCommand, onSystemInit,
      onUserInput, outputGeneralHelp].map fun p => (p.name, p)

-- the text is compared as a list of its characters
set_option maxRecDepth 20000 in
/-- The console's text is the text of these procedures. -/
theorem ofForms_coreProgram :
    (Form.scanAll {} coreProgram).toOption.bind (fun forms => (Program.ofForms forms).toOption) =
      some core := by
  have hchars : coreProgram = String.ofList _ := rfl
  rw [Form.scanAll, Token.scan, hchars, String.toList_ofList]
  decide +kernel

/-- The console begins with these procedures, and with nothing else. -/
theorem openSession_eq : openSession = .ok { config := {}, program := core } :=
  Session.load_of_scanAll ofForms_coreProgram

/-! ## The procedures -/

section

variable {setting : Setting} {n : Nat} {w : World} (hcore : setting.program = core)

include hcore

theorem find?_core {name : String} {p : Procedure} (h : core.find? name = some p) :
    setting.program.find? name = some p := by
  rw [hcore, h]

theorem defines_core {name : String} (h : core.defines name) : setting.program.defines name := by
  rw [hcore, h]

theorem callAt_outputGeneralHelp :
    ∃ v, (callAt setting (n + 3) "OutputGeneralHelp" []).Leads w v
      (w.say "AI_PROVIDE_DATA" "Commands: START <description>, HELP") := by
  refine ⟨_, callAt_leads (find?_core hcore rfl) (.inl rfl) ?_⟩
  exact statements_cons
    (evalAt_function .output rfl rfl
      (.cons (evalAt_text _) (.cons (evalAt_text _) (.cons (evalAt_reserved rfl) .nil)))
      (Function.apply_output _ _ _))
    .pure

theorem callAt_handleHelpCommand (arguments : Value) :
    ∃ v, (callAt setting (n + 5) "HandleHelpCommand" [arguments]).Leads w v
      (w.say "AI_PROVIDE_DATA" "Commands: START <description>, HELP").flushed := by
  obtain ⟨v, hhelp⟩ := @callAt_outputGeneralHelp setting n w hcore
  refine ⟨_, callAt_leads (find?_core hcore rfl) (.inr (Nat.le_refl _)) ?_⟩
  exact statements_cons (evalAt_call (defines_core hcore rfl) .nil hhelp)
    (statements_cons (evalAt_function .flush rfl rfl .nil Function.apply_flush) .pure)

theorem callAt_handleUnknownCommand (arguments : Value) :
    ∃ v, (callAt setting (n + 3) "HandleUnknownCommand" [arguments]).Leads w v
      (w.say "AI_ERROR" "Sorry, I did not understand that command.").flushed := by
  refine ⟨_, callAt_leads (find?_core hcore rfl) (.inr (Nat.le_refl _)) ?_⟩
  exact statements_cons
    (evalAt_function .output rfl rfl
      (.cons (evalAt_text _) (.cons (evalAt_text _) (.cons (evalAt_reserved rfl) .nil)))
      (Function.apply_output _ _ _))
    (statements_cons (evalAt_function .flush rfl rfl .nil Function.apply_flush) .pure)

/-- The project is acknowledged and becomes the title. -/
theorem callAt_handleStartCommand {title : String} {store : Store}
    (hstore : w.store.set "proj.title" (.text title) = .ok store) :
    ∃ v, (callAt setting (n + 5) "HandleStartCommand" [.list [.text title]]).Leads w v
      { (w.say "AI_ACKNOWLEDGE_INTENT" ("OK, starting project: " ++ title)).flushed with
        store } := by
  let scope := Scope.ofCall ["argsList"] [.list [.text title]]
  have htitle (n : Nat) (w : World) :
      (evalAt setting (n + 2) (apply "LIST_GET_ITEM" [.symbol "argsList", .number 0])
        scope).Leads w (.text title) w :=
    evalAt_function .listGetItem rfl rfl
      (.cons (evalAt_bound rfl rfl) (.cons (evalAt_number _) .nil))
      (Function.apply_listGetItem rfl)
  have htext : (evalAt setting (n + 3) (apply "STRING_CONCAT" [.text "OK, starting project: ",
      apply "LIST_GET_ITEM" [.symbol "argsList", .number 0]]) scope).Leads w
        (.text ("OK, starting project: " ++ title)) w :=
    evalAt_function .concat rfl rfl (.cons (evalAt_text _) (.cons (htitle n w) .nil))
      (Function.apply_concat _ _)
  refine ⟨_, callAt_leads (find?_core hcore rfl) (.inr (Nat.le_refl _)) ?_⟩
  refine statements_cons (evalAt_function .acknowledge rfl rfl
    (.cons (evalAt_text _) (.cons (evalAt_text _) (.cons (evalAt_text _) (.cons htext .nil))))
    (Function.apply_acknowledge _ _ _ _)) ?_
  refine statements_cons (evalAt_function_path .setState rfl rfl (.cons (htitle _ _) .nil)
    (Function.apply_setState hstore)) ?_
  exact statements_cons (evalAt_function .flush rfl rfl .nil Function.apply_flush) .pure

/-- The first turn sets the mode and offers help. -/
theorem callAt_onSystemInit {store : Store}
    (hstore : w.store.set "sys.current_mode" (.text "IDLE") = .ok store) :
    ∃ v, (callAt setting (n + 5) "OnSystemInit" []).Leads w v
      { (w.say "AI_PROVIDE_DATA" "Commands: START <description>, HELP").flushed with store } := by
  obtain ⟨v, hhelp⟩ := @callAt_outputGeneralHelp setting n { w with store } hcore
  refine ⟨_, callAt_leads (find?_core hcore rfl) (.inl rfl) ?_⟩
  refine statements_cons (evalAt_function_path .setState rfl rfl (.cons (evalAt_text _) .nil)
    (Function.apply_setState hstore)) ?_
  exact statements_cons (evalAt_call (defines_core hcore rfl) .nil hhelp)
    (statements_cons (evalAt_function .flush rfl rfl .nil Function.apply_flush) .pure)

/-! ## Dispatching -/

/-- The scope in which the branches are evaluated. -/
def dispatchScope (name : String) (details : Value) : Scope :=
  (Scope.ofCall ["commandDetails"] [details]).define "commandName" (.text name)

/-- The branch of the command calls its handler. -/
theorem evalAt_branch_taken {name handler : String} {details arguments v : Value} {w₁ : World}
    (harguments : details.member "args" = .ok arguments) (hdefined : core.defines handler)
    (h : (callAt setting (n + 2) handler [arguments]).Leads w v w₁) :
    (evalAt setting (n + 4) (branch name handler) (dispatchScope name details)).Leads w v w₁ := by
  have hdetails : (evalAt setting (n + 2)
      (apply "MAP_GET_VALUE" [.symbol "commandDetails", .text "args"])
      (dispatchScope name details)).Leads w arguments w :=
    evalAt_function .mapGetValue rfl rfl (.cons (evalAt_bound rfl rfl) (.cons (evalAt_text _) .nil))
      (Function.apply_mapGetValue harguments)
  refine evalAt_choice_true
    (evalAt_function .equal rfl rfl (.cons (evalAt_bound rfl rfl) (.cons (evalAt_text _) .nil))
      (Function.apply_equal _ _)) ?_
    (evalAt_call (defines_core hcore hdefined) (.cons hdetails .nil) h)
  simp [Value.looselyEquals, Value.isTruthy]

omit hcore in
/-- The branch of another command does nothing. -/
theorem evalAt_branch_passed {name other handler : String} {details : Value} (hne : name ≠ other) :
    (evalAt setting (n + 3) (branch other handler) (dispatchScope name details)).Leads w .absent
      w := by
  refine evalAt_choice_false
    (evalAt_function .equal rfl rfl (.cons (evalAt_bound rfl rfl) (.cons (evalAt_text _) .nil))
      (Function.apply_equal _ _)) ?_
  simp [Value.looselyEquals, Value.isTruthy, hne]

omit hcore in
theorem member_command (name : String) (arguments : List String) :
    (Value.command name arguments).member "command" = .ok (.text name) ∧
      (Value.command name arguments).member "args" = .ok (.list (arguments.map .text)) := by
  simp only [Value.command, Value.member, Keyed.ofEntries, List.foldl_cons, List.foldl_nil,
    Keyed.insert, Keyed.find?, String.reduceLT, String.reduceEq, ↓reduceIte, and_self]

/-- The handler of a command is called with the arguments of the command. -/
theorem callAt_dispatchUserCommand {name handler : String} {arguments : List String} {v : Value}
    {w₁ : World} (hhandler : (name, handler) ∈ [("HELP", "HandleHelpCommand"),
      ("START", "HandleStartCommand"), ("UNKNOWN", "HandleUnknownCommand")])
    (h : (callAt setting (n + 2) handler [.list (arguments.map .text)]).Leads w v w₁) :
    ∃ u, (callAt setting (n + 6) "DispatchUserCommand" [.command name arguments]).Leads w u w₁ := by
  obtain ⟨hcommand, hargs⟩ := member_command name arguments
  have hname : (evalAt setting (n + 4)
      (apply "MAP_GET_VALUE" [.symbol "commandDetails", .text "command"])
      (Scope.ofCall ["commandDetails"] [.command name arguments])).Leads w (.text name) w :=
    evalAt_function .mapGetValue rfl rfl (.cons (evalAt_bound rfl rfl) (.cons (evalAt_text _) .nil))
      (Function.apply_mapGetValue hcommand)
  -- one of the branches is taken, and the others are passed over
  have hbranches : ∃ u, (sequence (evalAt setting (n + 4))
      (dispatchScope name (.command name arguments))
      [branch "HELP" "HandleHelpCommand", branch "START" "HandleStartCommand",
        branch "UNKNOWN" "HandleUnknownCommand"]).Leads w u w₁ := by
    simp only [List.mem_cons, Prod.mk.injEq, List.not_mem_nil, or_false] at hhandler
    obtain ⟨rfl, rfl⟩ | ⟨rfl, rfl⟩ | ⟨rfl, rfl⟩ := hhandler
    · exact ⟨_, .foldlM_cons (evalAt_branch_taken hcore hargs rfl h)
        (.foldlM_cons (evalAt_branch_passed (by decide))
          (.foldlM_cons (evalAt_branch_passed (by decide)) .pure))⟩
    · exact ⟨_, .foldlM_cons (evalAt_branch_passed (by decide))
        (.foldlM_cons (evalAt_branch_taken hcore hargs rfl h)
          (.foldlM_cons (evalAt_branch_passed (by decide)) .pure))⟩
    · exact ⟨_, .foldlM_cons (evalAt_branch_passed (by decide))
        (.foldlM_cons (evalAt_branch_passed (by decide))
          (.foldlM_cons (evalAt_branch_taken hcore hargs rfl h) .pure))⟩
  obtain ⟨u, hbranches⟩ := hbranches
  refine ⟨_, callAt_leads (find?_core hcore rfl) (.inr (Nat.le_refl _)) ?_⟩
  exact statements_cons (evalAt_binding hname hbranches) .pure

end

end TurnScript.Console
