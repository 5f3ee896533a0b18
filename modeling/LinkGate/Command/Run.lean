import LinkGate.Command.Batch
import LinkGate.Command.Texts
import LinkGate.Config.Loading
import LinkGate.Html.Attribute
import LinkGate.Log.Sink

/-!
A run of the program as a function of the file tree, the environment, the arguments and the standard
input. The log is opened first, then the arguments are read, then the request is carried out. Events
are collected on the way; what the filter shows of them goes to the log file or, if there is none,
to the standard error. The texts that the program's libraries word are a parameter of a run.
-/

namespace LinkGate.Command

inductive Failure
  /-- The settings file, which has this text, is bad. -/
  | settings (reason : Config.Unusable) (text : String)
  /-- A line of the input is not text. -/
  | inputLine (number : Nat)
  /-- A URL is refused, and that was to be an error. -/
  | rejected (reason : Url.Reason)

/-- The reason in words. The TOML reader words its part of it. -/
def Failure.message (texts : Texts) : Failure → String
  | settings reason text => reason.message (texts.settingsReport text)
  | inputLine number =>
    "read input line " ++ toString number ++ ": stream did not contain valid UTF-8"
  | rejected reason => "url rejected: " ++ reason.message

/-- What carrying out a request comes to. -/
structure Effect where
  output : String
  events : List Log.Event
  failure : Option Failure
  tree : Files.Tree

/-- Writes a text, without events and without touching the tree. -/
def Effect.print (t : Files.Tree) (output : String) : Effect :=
  ⟨output, [], none, t⟩

/-- How a batch is done with the given settings. A format on the command line goes before the one of
the settings. -/
def batchOptions (config : Config) (format : Option OutputFormat) : BatchOptions :=
  ⟨format.getD config.output, config.logRejections, config.skipBlankLines⟩

/-- Sanitizes URLs or the lines of the input, after the settings are loaded. -/
def sanitize (t : Files.Tree) (env : Environment) (urls : List String)
    (format : Option OutputFormat) (stream : List UInt8) : Effect :=
  let loading := Config.loadOrDefault t env
  match loading.result with
  | .error reason =>
    let text := Config.textAt loading.tree reason.path
    ⟨"", loading.events, some (.settings reason text), loading.tree⟩
  | .ok config =>
    let batch := Batch.run (batchOptions config format) urls stream
    { output := batch.output
      events := loading.events ++ .loadedConfig config :: batch.events
      failure := batch.unreadLine.map .inputLine
      tree := loading.tree }

/-- Prints the verdict on a URL. If `strict`, a refusal is a failure. -/
def check (t : Files.Tree) (url : String) (strict : Bool) : Effect :=
  match Url.classify url with
  | .safe => .print t "safe\n"
  | .refused reason =>
    { output := "unsafe: " ++ reason.message ++ "\n"
      events := []
      failure := if strict then some (.rejected reason) else none
      tree := t }

/-- Prints an attribute that links to a URL. -/
def href (t : Files.Tree) (url : String) : Effect :=
  { output := (Url.sanitize url).toHref ++ "\n"
    events := Log.rejections [url]
    failure := none
    tree := t }

def execute (texts : Texts) (t : Files.Tree) (env : Environment) (stream : List UInt8) :
    Request → Effect
  | .sanitize urls format => sanitize t env urls format stream
  | .check url strict => check t url strict
  | .href url => href t url
  | .completions shell => .print t (texts.completions shell)
  | .man => .print t texts.manual
  | .help verb => .print t (texts.help verb)

/-- What a run of the program shows. -/
structure Report where
  exitCode : Nat
  output : String
  /-- What the run writes to the standard error. -/
  errors : String
  deriving DecidableEq, Repr

/-- An error of the program as a line of the standard error. -/
def errorLine (message : String) : String :=
  programName ++ " error: " ++ message ++ "\n"

/-- What a run does besides logging: its exit code, output, error text and events, and the tree
after it. -/
structure Outcome where
  exitCode : Nat
  output : String
  error : String
  events : List Log.Event
  tree : Files.Tree

/-- Reads the arguments and carries out the request. A refused command line does nothing, and how it
is told is not for the program to say. -/
def perform (texts : Texts) (t : Files.Tree) (env : Environment) (arguments : List String)
    (stream : List UInt8) : Outcome :=
  match parse arguments with
  | .error _ => ⟨2, "", texts.refusal arguments, [], t⟩
  | .ok request =>
    let effect := execute texts t env stream request
    match effect.failure with
    | none => ⟨0, effect.output, "", effect.events, effect.tree⟩
    | some failure =>
      ⟨1, effect.output, errorLine (failure.message texts), effect.events, effect.tree⟩

/-- Runs the program, and gives what it shows and the tree after it. -/
def run (texts : Texts) (t : Files.Tree) (env : Environment) (arguments : List String)
    (stream : List UInt8) : Report × Files.Tree :=
  let filter := Log.Filter.ofSetting env.logFilter
  match Log.openFile t env with
  | (t, some file) =>
    let outcome := perform texts t env arguments stream
    let log := Log.shown filter (.opened file.path :: outcome.events)
    (⟨outcome.exitCode, outcome.output, outcome.error⟩, file.append outcome.tree log)
  | (t, none) =>
    let outcome := perform texts t env arguments stream
    let log := Log.shown filter outcome.events
    (⟨outcome.exitCode, outcome.output, log ++ outcome.error⟩, outcome.tree)

end LinkGate.Command
