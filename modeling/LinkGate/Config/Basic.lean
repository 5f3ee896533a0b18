/-!
The settings of the program.
-/

namespace LinkGate

/-- How a batch of sanitized URLs is written. -/
inductive OutputFormat
  /-- One URL on a line. -/
  | plain
  /-- One JSON record on a line, with the input, the output and whether the input is safe. -/
  | json
  deriving DecidableEq, Repr

namespace OutputFormat

/-- The name of a format in settings and on the command line. -/
def name : OutputFormat → String
  | plain => "plain"
  | json => "json"

def ofName? (s : String) : Option OutputFormat :=
  if s = "plain" then some plain else if s = "json" then some json else none

end OutputFormat

structure Config where
  /-- How a batch is written when the command line does not say. -/
  output : OutputFormat
  /-- Whether a batch with refused URLs ends with a report of how many were refused. -/
  logRejections : Bool
  /-- Whether blank lines of the standard input are passed over. -/
  skipBlankLines : Bool
  deriving DecidableEq, Repr

namespace Config

/-- The settings of a user who has chosen none. -/
def default : Config := ⟨.plain, true, true⟩

instance : Inhabited Config := ⟨default⟩

/-- The settings file that is created for a user who has none. It says what holds without it. -/
def defaultText : String :=
  "output = \"plain\"\nlog_rejections = true\nskip_blank_lines = true\n"

/-- A truth value as the settings file writes it. -/
def showBool (b : Bool) : String :=
  if b then "true" else "false"

/-- The settings on one line, for the log. -/
def summary (c : Config) : String :=
  let format := match c.output with
    | .plain => "Plain"
    | .json => "Json"
  "SafeUrlConfig \x7b output: " ++ format ++ ", log_rejections: " ++ showBool c.logRejections ++
    ", skip_blank_lines: " ++ showBool c.skipBlankLines ++ " \x7d"

end Config

end LinkGate
