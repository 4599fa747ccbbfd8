/-!
# The program of the console
-/

namespace TurnScript.Console

/-- What the console runs: it starts projects, offers help, and apologises for everything else. -/
def coreProgram : String := r#"
(DEFINE_PROCEDURE OnSystemInit ()
    (SEQ
        (SET_STATE sys.current_mode "IDLE")
        (CALL_PROCEDURE OutputGeneralHelp)
        (FLUSH_USER_OUTPUT_BUFFER)))

(DEFINE_PROCEDURE OnUserInput (raw_text)
    (CALL_PROCEDURE DispatchUserCommand raw_text))

(DEFINE_PROCEDURE DispatchUserCommand (commandDetails)
    (LET ((commandName (MAP_GET_VALUE commandDetails "command")))
        (IF (EQ commandName "HELP")
            (CALL_PROCEDURE HandleHelpCommand (MAP_GET_VALUE commandDetails "args")))
        (IF (EQ commandName "START")
            (CALL_PROCEDURE HandleStartCommand (MAP_GET_VALUE commandDetails "args")))
        (IF (EQ commandName "UNKNOWN")
            (CALL_PROCEDURE HandleUnknownCommand (MAP_GET_VALUE commandDetails "args")))))

(DEFINE_PROCEDURE HandleStartCommand (argsList)
    (SEQ
        (ACKNOWLEDGE_AND_LOG "CMD_START" "START command received." "AI_ACKNOWLEDGE_INTENT"
            (STRING_CONCAT "OK, starting project: " (LIST_GET_ITEM argsList 0)))
        (SET_STATE proj.title (LIST_GET_ITEM argsList 0))
        (FLUSH_USER_OUTPUT_BUFFER)))

(DEFINE_PROCEDURE HandleHelpCommand (argsList)
    (SEQ
        (CALL_PROCEDURE OutputGeneralHelp)
        (FLUSH_USER_OUTPUT_BUFFER)))

(DEFINE_PROCEDURE HandleUnknownCommand (argsList)
    (SEQ
        (OUTPUT_TO_USER_BUFFER "AI_ERROR" "Sorry, I did not understand that command." NIL)
        (FLUSH_USER_OUTPUT_BUFFER)))

(DEFINE_PROCEDURE OutputGeneralHelp ()
    (OUTPUT_TO_USER_BUFFER "AI_PROVIDE_DATA" "Commands: START <description>, HELP" NIL))
"#

end TurnScript.Console
