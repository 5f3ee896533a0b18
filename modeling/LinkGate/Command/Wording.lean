import LinkGate.Command.Completion
import LinkGate.Command.Texts

/-!
A wording for the texts that are not the program's own. It is not that of any library; it is there
so that the program can be run. Nothing about runs depends on it.
-/

namespace LinkGate.Command

/-- Why a command line is refused, in words. -/
def UsageError.message : UsageError → String
  | missingVerb => "a subcommand is required"
  | unknownVerb word => "unrecognized subcommand '" ++ word ++ "'"
  | unknownOption word => "unexpected argument '" ++ word ++ "'"
  | repeatedOption name => "the argument '--" ++ name ++ "' cannot be used more than once"
  | missingValue option => "a value is required for '--" ++ option ++ "'"
  | unexpectedValue option => "no value is allowed for '--" ++ option ++ "'"
  | badValue argument value => "invalid value '" ++ value ++ "' for '" ++ argument ++ "'"
  | unexpectedWord word => "unexpected argument '" ++ word ++ "'"
  | missingWord argument => "the argument <" ++ argument ++ "> is required"

/-- What the standard error shows of arguments that are refused. -/
def refusalText (arguments : List String) : String :=
  match parse arguments with
  | .error e => "error: " ++ e.message ++ "\n"
  | .ok _ => ""

/-- The texts in this wording. -/
def Texts.standIn : Texts where
  refusal := refusalText
  help := helpText
  completions := completionScript
  manual := manualPage
  settingsReport _ := "TOML parse error"

end LinkGate.Command
