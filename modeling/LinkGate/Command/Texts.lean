import LinkGate.Command.Arguments

/-!
Texts that are not the program's own. The libraries that read the command line and TOML, and that
write the completion scripts and the manual page, word them.
-/

namespace LinkGate.Command

/-- What the libraries of the program print. -/
structure Texts where
  /-- What the standard error shows of arguments that are refused. -/
  refusal : List String → String
  /-- Help on a verb or, if none is given, on the program. -/
  help : Option Verb → String
  completions : Shell → String
  manual : String
  /-- What is wrong with a settings file of this text, as the TOML reader tells it. -/
  settingsReport : String → String

end LinkGate.Command
