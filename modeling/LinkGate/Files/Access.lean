import LinkGate.Files.Path
import LinkGate.Files.Tree

/-!
Access to a tree by path. A path is walked from the root through directories that exist, `..` going
up where the walk then is. Each operation fails with a cause and then leaves the tree as it was,
but for `createAll`, which may leave directories that it made before it failed.
-/

namespace LinkGate.Files

inductive Failure
  | notFound
  | alreadyExists
  | notDirectory
  | isDirectory
  | nameTooLong
  | nulInPath
  deriving DecidableEq, Repr

/-- The cause in words, with its system number if it has one. -/
def Failure.message : Failure → String
  | notFound => "No such file or directory (os error 2)"
  | alreadyExists => "File exists (os error 17)"
  | notDirectory => "Not a directory (os error 20)"
  | isDirectory => "Is a directory (os error 21)"
  | nameTooLong => "File name too long (os error 36)"
  | nulInPath => "file name contained an unexpected NUL byte"

/-- Why a path leads nowhere in any tree, if it is such a path. -/
def Path.refusal? (p : Path) : Option Failure :=
  if p.hasNul then some .nulInPath
  else if p.text.isEmpty then some .notFound
  else if p.isTooLong then some .nameTooLong
  else none

namespace Tree

/-- Looks up a name in the directory at a place. -/
def lookUp (t : Tree) (directory : Place) (name : String) : Except Failure (Option Node) :=
  if isNameTooLong name then .error .nameTooLong else .ok (t.get? (directory ++ [name]))

def step (t : Tree) (place : Place) (s : Step) : Except Failure Place :=
  match t.get? place with
  | none => .error .notFound
  | some (.file _) => .error .notDirectory
  | some (.directory _) =>
    match s with
    | .stay => .ok place
    | .up => .ok place.dropLast
    | .down name =>
      match t.lookUp place name with
      | .error e => .error e
      | .ok none => .error .notFound
      | .ok (some _) => .ok (place ++ [name])

def walk (t : Tree) (place : Place) : List Step → Except Failure Place
  | [] => .ok place
  | s :: rest =>
    match t.step place s with
    | .error e => .error e
    | .ok next => walk t next rest

/-- The place and the entry that a path leads to. -/
def find (t : Tree) (p : Path) : Except Failure (Place × Node) :=
  match p.refusal? with
  | some e => .error e
  | none =>
    match t.walk [] p.steps with
    | .error e => .error e
    | .ok place =>
      match t.get? place with
      | none => .error .notFound
      | some (.file content) =>
        if p.endsInSlash then .error .notDirectory else .ok (place, .file content)
      | some (.directory entries) => .ok (place, .directory entries)

def contains (t : Tree) (p : Path) : Bool :=
  match t.find p with
  | .ok _ => true
  | .error _ => false

def isFile (t : Tree) (p : Path) : Bool :=
  match t.find p with
  | .ok (_, .file _) => true
  | _ => false

def isDirectory (t : Tree) (p : Path) : Bool :=
  match t.find p with
  | .ok (_, .directory _) => true
  | _ => false

def read (t : Tree) (p : Path) : Except Failure Bytes :=
  match t.find p with
  | .error e => .error e
  | .ok (_, .directory _) => .error .isDirectory
  | .ok (_, .file content) => .ok content

/-- What the last step of a path names in the directory that the other steps lead to. -/
inductive Target
  /-- No new entry can be made: the path ends in `.` or `..` or is the root's. -/
  | fixed
  /-- The entry of this name in the directory at this place. -/
  | entry (parent : Place) (name : String)

/-- Walks along all but the last step of a path, to a directory. -/
def findTarget (t : Tree) (p : Path) : Except Failure Target :=
  match p.refusal? with
  | some e => .error e
  | none =>
    match p.steps.getLast? with
    | none => .ok .fixed
    | some last =>
      match t.walk [] p.steps.dropLast with
      | .error e => .error e
      | .ok parent =>
        match t.get? parent with
        | none => .error .notFound
        | some (.file _) => .error .notDirectory
        | some (.directory _) =>
          match last with
          | .down name => .ok (.entry parent name)
          | _ => .ok .fixed

def create (t : Tree) (p : Path) : Except Failure Tree :=
  match t.findTarget p with
  | .error e => .error e
  | .ok .fixed => .error .alreadyExists
  | .ok (.entry parent name) =>
    match t.lookUp parent name with
    | .error e => .error e
    | .ok (some _) => .error .alreadyExists
    | .ok none => .ok (t.put parent name (.directory []))

/-- Opens a file for writing: gives its place and its content so far, which is none for a file that
does not exist yet. -/
def openForWriting (t : Tree) (p : Path) : Except Failure (Place × String × Bytes) :=
  match t.findTarget p with
  | .error e => .error e
  | .ok .fixed => .error .isDirectory
  | .ok (.entry parent name) =>
    if p.endsInSlash then .error .isDirectory
    else match t.lookUp parent name with
      | .error e => .error e
      | .ok (some (.directory _)) => .error .isDirectory
      | .ok (some (.file content)) => .ok (parent, name, content)
      | .ok none => .ok (parent, name, [])

def write (t : Tree) (p : Path) (content : Bytes) : Except Failure Tree :=
  match t.openForWriting p with
  | .error e => .error e
  | .ok (parent, name, _) => .ok (t.put parent name (.file content))

/-- Makes the first directory of a list. If it fails because the directory above is missing, that is
made first, which the rest of the list names in the same way. A directory that is there already
counts as made. -/
def createChain (t : Tree) : List Path → Tree × Except Failure Unit
  | [] => (t, .error .notFound)
  | p :: above =>
    if p.text.isEmpty then (t, .ok ())
    else
      match t.create p with
      | .ok t => (t, .ok ())
      | .error .notFound =>
        match createChain t above with
        | (t, .error e) => (t, .error e)
        | (t, .ok ()) =>
          match t.create p with
          | .ok t => (t, .ok ())
          | .error e => (t, if t.isDirectory p then .ok () else .error e)
      | .error e => (t, if t.isDirectory p then .ok () else .error e)

/-- Makes a directory with all directories above it. -/
def createAll (t : Tree) (p : Path) : Tree × Except Failure Unit :=
  t.createChain p.lineage

end Tree

end LinkGate.Files
