import LinkGate.Environment
import LinkGate.Log.Filter
import LinkGate.Text.Utf8

/-!
Where the log goes. It is appended to a file in the program's state directory. If that file cannot
be placed or opened, the log goes to the standard error instead.
-/

namespace LinkGate.Log

def fileName : String := "safeurl.log"

/-- An open log file: its path, and where it is in the tree. -/
structure OpenFile where
  path : Files.Path
  directory : Files.Place
  name : String
  deriving DecidableEq, Repr

def locate (t : Files.Tree) (env : Environment) : Files.Tree × Except Misplaced Files.Path :=
  placeFile t env.stateBase? fileName

/-- Opens the log file for appending, and makes it if it does not exist. The result is `none` if the
log has to go to the standard error. -/
def openFile (t : Files.Tree) (env : Environment) : Files.Tree × Option OpenFile :=
  match locate t env with
  | (t, .error _) => (t, none)
  | (t, .ok path) =>
    match t.openForWriting path with
    | .error _ => (t, none)
    | .ok (directory, name, content) =>
      (t.put directory name (.file content), some ⟨path, directory, name⟩)

def OpenFile.append (file : OpenFile) (t : Files.Tree) (text : String) : Files.Tree :=
  match t.get? (file.directory ++ [file.name]) with
  | some (.file content) => t.put file.directory file.name (.file (content ++ Text.toBytes text))
  | _ => t

/-- The lines that a filter shows of events. -/
def shown (filter : Filter) (events : List Event) : String :=
  linesOf (events.filter filter.admits)

end LinkGate.Log
