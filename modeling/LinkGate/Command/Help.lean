import LinkGate.Command.Arguments
import LinkGate.Environment
import LinkGate.Text.Lines

/-!
Help on the program and on each verb, and the manual page.
-/

namespace LinkGate.Command

open Text (ofLines)

def about : String := "Sanitize URLs for safe use in HTML hyperlinks"

/-- A word or an option with what it means. -/
abbrev Entry := String × String

namespace Verb

/-- What a verb does. -/
def summary : Verb → String
  | sanitize =>
    "Print the sanitized form of each URL (reads the lines of the input when none are given)"
  | check => "Report whether a URL is safe, and why not if it is not"
  | href => "Print an escaped href attribute for the sanitized URL"
  | completions => "Generate shell completions"
  | man => "Print the man page (roff)"
  | help => "Print this message or the help of the given subcommand"

/-- What may follow the name of a verb. -/
def usage : Verb → String
  | sanitize => "[OPTIONS] [URLS]..."
  | check => "[OPTIONS] <URL>"
  | href => "<URL>"
  | completions => "<SHELL>"
  | man => ""
  | help => "[COMMAND]"

def words : Verb → List Entry
  | sanitize => [("[URLS]...", "URLs to sanitize")]
  | check => [("<URL>", "URL to classify")]
  | href => [("<URL>", "URL to sanitize")]
  | completions => [("<SHELL>", ", ".intercalate (Shell.all.map Shell.name))]
  | man => []
  | help => [("[COMMAND]", "Print help for this subcommand")]

def options : Verb → List Entry
  | sanitize =>
    [("--format <FORMAT>", "Output format, plain or json; defaults to the setting in config.toml")]
  | check => [("--strict", "Exit with an error when the URL is unsafe")]
  | href | completions | man | help => []

end Verb

def Entry.line (e : Entry) : String := "  " ++ e.1 ++ "  " ++ e.2

/-- A list with its heading, or nothing if it is empty. -/
def listOf (heading : String) (entries : List Entry) : List String :=
  if entries.isEmpty then [] else ["", heading ++ ":"] ++ entries.map Entry.line

/-- The option that every verb has. -/
def helpEntry : Entry := ("-h, --help", "Print help")

def verbHelp (verb : Verb) : String :=
  ofLines ([verb.summary, "",
      "Usage: " ++ programName ++ " " ++ verb.name ++
        (if verb.usage.isEmpty then "" else " " ++ verb.usage)] ++
    listOf "Arguments" verb.words ++
    listOf "Options" (verb.options ++ [helpEntry]))

def programHelp : String :=
  ofLines ([about, "", "Usage: " ++ programName ++ " <COMMAND>"] ++
    listOf "Commands" (Verb.all.map fun v => (v.name, v.summary)) ++
    listOf "Options" [helpEntry])

def helpText : Option Verb → String
  | none => programHelp
  | some verb => verbHelp verb

def manualEntry (verb : Verb) : List String :=
  [".TP", ".B " ++ programName ++ " " ++ verb.name ++ " " ++ verb.usage, verb.summary] ++
    (verb.words ++ verb.options).flatMap fun e => [".RS", ".TP", e.1, e.2, ".RE"]

def manualPage : String :=
  ofLines ([".TH " ++ programName ++ " 1", ".SH NAME", programName ++ " \\- " ++ about,
      ".SH SYNOPSIS", ".B " ++ programName ++ " <COMMAND>", ".SH DESCRIPTION", about,
      ".SH OPTIONS", ".TP", helpEntry.1, helpEntry.2, ".SH SUBCOMMANDS"] ++
    Verb.all.flatMap manualEntry)

end LinkGate.Command
