import LinkGate.Config.Failure
import LinkGate.Text.Terminal
import LinkGate.Url.Verdict

/-!
What the program logs. An event tells why a URL was refused and how long it was, and nothing else
of its text.
-/

namespace LinkGate.Log

/-- How much an event matters. -/
inductive Level
  | error
  | warn
  | info
  | debug
  | trace
  deriving DecidableEq, Repr

namespace Level

def name : Level → String
  | error => "ERROR"
  | warn => "WARN"
  | info => "INFO"
  | debug => "DEBUG"
  | trace => "TRACE"

/-- How verbose a level is, from one for errors on. -/
def rank : Level → Nat
  | error => 1
  | warn => 2
  | info => 3
  | debug => 4
  | trace => 5

end Level

/-- Something that happened in a run. -/
inductive Event
  /-- The log was opened as a file. -/
  | opened (path : Files.Path)
  /-- A settings file was created. -/
  | createdConfig (path : Files.Path)
  /-- There is no settings file, and none can be created. -/
  | configUnavailable (reason : Config.Unavailable)
  /-- The settings of a batch are known. -/
  | loadedConfig (config : Config)
  /-- A URL was replaced by the placeholder. The length counts bytes in UTF-8. -/
  | replaced (reason : Url.Reason) (length : Nat)
  /-- A batch ended in which URLs were replaced, and is reported. -/
  | reported (rejected : Nat)
  /-- A batch ended without a report. -/
  | finished (rejected : Nat)
  deriving DecidableEq, Repr

namespace Event

def level : Event → Level
  | opened _ | createdConfig _ | reported _ => .info
  | configUnavailable _ => .warn
  | loadedConfig _ | replaced .. | finished _ => .debug

/-- The part of the program that the event comes from. -/
def target : Event → String
  | opened _ => "safeurl_core::logging"
  | createdConfig _ | configUnavailable _ => "safeurl_core::config"
  | loadedConfig _ => "safeurl::cli"
  | replaced .. => "safeurl_core::url_model::sanitized"
  | reported _ | finished _ => "safeurl::cli::commands::sanitize"

/-- What happened, in words. -/
def message : Event → String
  | opened path => "safeurl logging initialized at " ++ path.text
  | createdConfig path => "created default config at " ++ path.text
  | configUnavailable reason => "config unavailable, using defaults: " ++ reason.message
  | loadedConfig config => "loaded config: " ++ config.summary
  | replaced .. => "replacing unsafe url"
  | reported _ => "replaced unsafe urls with placeholder"
  | finished _ => "sanitize finished"

/-- What else is told of the event, each value by its name. -/
def values : Event → List (String × String)
  | opened _ | createdConfig _ | configUnavailable _ | loadedConfig _ => []
  | replaced reason length => [("reason", reason.message), ("len", toString length)]
  | reported n | finished n => [("rejected", toString n)]

/-- The names of the fields of the event, of which the message is one. -/
def fields (e : Event) : List String :=
  "message" :: e.values.map (·.1)

/-- A value as a log line shows it after what stands before it. -/
def shownValue (v : String × String) : String :=
  " " ++ v.1 ++ "=" ++ v.2

/-- The message as a log line shows it. Paths in it come from outside, so it is kept from steering a
terminal. -/
def shownMessage (e : Event) : String :=
  String.ofList (Text.Terminal.encode e.message.toList)

def line (e : Event) : String :=
  e.level.name ++ " " ++ e.target ++ ": " ++ e.shownMessage ++
    String.join (e.values.map shownValue)

end Event

end LinkGate.Log
