import LinkGate.Command.Run
import LinkGate.Command.Wording

/-!
The program. It takes the part of the file system that a run can touch into a tree, runs on that
tree, and writes back what the run added.
-/

namespace LinkGate.Main

open Files

def pathOf (place : Place) : String :=
  "/" ++ "/".intercalate place

/-- The system number of the error that a directory was read as a file. -/
def readDirectoryError : UInt32 := 21

/-- The entry of the file system at a place, a directory without what is in it. -/
def probe (place : Place) : IO (Option Node) := do
  try
    return some (.file (← IO.FS.readBinFile (pathOf place)).toList)
  catch
    | .inappropriateType _ code _ | .resourceExhausted _ code _ | .otherError code _ =>
      return if code = readDirectoryError then some (.directory []) else none
    | _ => return none

/-- Takes the entries along a path into a tree. A missing directory does not end the walk, because
the run may make it. -/
def loadAlong (t : Tree) (place : Place) : List Step → IO Tree
  | [] => return t
  | .stay :: rest => loadAlong t place rest
  | .up :: rest => loadAlong t place.dropLast rest
  | .down name :: rest => do
    let below := place ++ [name]
    if (t.get? below).isSome then loadAlong t below rest
    else match ← probe below with
      | some node => loadAlong (t.put place name node) below rest
      | none => loadAlong t below rest

/-- Takes the entries on the way to a file of the program into a tree. -/
def loadFor (t : Tree) (base? : Option Path) (name : String) : IO Tree :=
  match base? with
  | none => return t
  | some base => loadAlong t [] ((programDirectory base).join name).steps

/-- The part of the file system that a run can touch. -/
def load (env : Environment) : IO Tree := do
  loadFor (← loadFor .empty env.stateBase? Log.fileName) env.configBase? Config.fileName

/-- Adds a text to the end of a file, which is made if it does not exist. -/
def appendFile (place : Place) (content : Bytes) : IO Unit := do
  let file ← IO.FS.Handle.mk (pathOf place) .append
  file.write (ByteArray.mk content.toArray)

/-- Brings an entry of the file system to its state after a run. A run only adds to what there
is. -/
def save (before after : Tree) (place : Place) : IO Unit :=
  match before.get? place, after.get? place with
  | none, some (.directory _) => IO.FS.createDir (pathOf place)
  | none, some (.file content) => appendFile place content
  | some (.file old), some (.file new) =>
    if old.length < new.length then appendFile place (new.drop old.length) else return ()
  | _, _ => return ()

/-- Reads a stream to its end. -/
partial def readAll (stream : IO.FS.Stream) (chunks : ByteArray) : IO ByteArray := do
  let chunk ← stream.read 65536
  if chunk.isEmpty then return chunks else readAll stream (chunks ++ chunk)

def environment : IO Environment := do
  return {
    home := ← IO.getEnv "HOME"
    configHome := ← IO.getEnv "XDG_CONFIG_HOME"
    stateHome := ← IO.getEnv "XDG_STATE_HOME"
    logFilter := ← IO.getEnv "RUST_LOG" }

/-- Runs the program on the arguments of the command line, and gives the exit code. -/
def start (arguments : List String) : IO UInt32 := do
  let env ← environment
  let before ← load env
  let input ← if Command.readsInput arguments then readAll (← IO.getStdin) .empty else pure .empty
  let (report, after) := Command.run .standIn before env arguments input.toList
  for (place, _) in after.places do
    save before after place
  (← IO.getStdout).putStr report.output
  (← IO.getStderr).putStr report.errors
  return report.exitCode.toUInt32

end LinkGate.Main

def main (arguments : List String) : IO UInt32 :=
  LinkGate.Main.start arguments
