import LinkGate.Json.Printer
import LinkGate.Log.Rejection
import LinkGate.Text.Blank
import LinkGate.Text.Lines

/-!
Batches of URLs. Each URL makes one piece of output, in the order of the URLs, and each refused one
an event; a last event tells how many were refused. URLs come as a list or as the lines of an input
stream, which may leave out blank lines.
-/

namespace LinkGate.Command

/-- How a batch is done. -/
structure BatchOptions where
  format : OutputFormat
  logRejections : Bool
  skipBlankLines : Bool
  deriving DecidableEq, Repr

/-- What a batch comes to. -/
structure Batch where
  output : String
  events : List Log.Event
  /-- The number of the input line that could not be read, if there was one. -/
  unreadLine : Option Nat
  deriving DecidableEq, Repr

namespace Batch

def record (url : String) : Json :=
  .object [("input", .string url), ("output", .string (Url.sanitize url).value),
    ("safe", .boolean (Url.isSafe url))]

def outputFor (format : OutputFormat) (url : String) : String :=
  match format with
  | .plain => (Url.sanitize url).value ++ "\n"
  | .json => (record url).toLine ++ "\n"

def outputForAll (format : OutputFormat) (urls : List String) : String :=
  String.join (urls.map (outputFor format))

def countRefused (urls : List String) : Nat :=
  urls.countP (!Url.isSafe ·)

/-- The event that ends a batch. Refused URLs are reported if the settings say so. -/
def lastEvent (options : BatchOptions) (refused : Nat) : Log.Event :=
  if options.logRejections && decide (0 < refused) then .reported refused else .finished refused

/-- The batch of a list of URLs. -/
def ofUrls (options : BatchOptions) (urls : List String) : Batch :=
  { output := outputForAll options.format urls
    events := Log.rejections urls ++ [lastEvent options (countRefused urls)]
    unreadLine := none }

/-- The lines that are taken for URLs. -/
def keptLines (options : BatchOptions) (lines : List String) : List String :=
  if options.skipBlankLines then lines.filter (!Text.isBlankLine ·.toList) else lines

/-- The batch of an input stream. A line that cannot be read stops it, and it has no last event
then. -/
def ofStream (options : BatchOptions) (stream : List UInt8) : Batch :=
  let lines := Text.Lines.read stream
  let urls := keptLines options lines.texts
  match lines.undecodable with
  | none => ofUrls options urls
  | some number =>
    { output := outputForAll options.format urls
      events := Log.rejections urls
      unreadLine := some number }

/-- The batch of a list of URLs or, if it is empty, of an input stream. -/
def run (options : BatchOptions) (urls : List String) (stream : List UInt8) : Batch :=
  if urls.isEmpty then ofStream options stream else ofUrls options urls

end Batch

end LinkGate.Command
