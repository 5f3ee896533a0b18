/-!
A tree of directories and regular files. The root is a directory, and every entry but the root is
in a directory, because of the way a tree is built. A place in a tree is given by the names on the
way from the root.
-/

namespace LinkGate.Files

abbrev Bytes := List UInt8

/-- An entry of a directory. -/
inductive Node
  | file (content : Bytes)
  | directory (entries : List (String × Node))

/-- The entries of a directory by name. -/
abbrev Entries := List (String × Node)

inductive Kind
  | file
  | directory
  deriving DecidableEq, Repr

def Node.kind : Node → Kind
  | file _ => .file
  | directory _ => .directory

namespace Entries

/-- The entry with a name. -/
def get? (entries : Entries) (name : String) : Option Node :=
  entries.lookup name

/-- Puts an entry under a name, in place of the one that has it. -/
def put (entries : Entries) (name : String) (node : Node) : Entries :=
  match entries with
  | [] => [(name, node)]
  | (other, kept) :: rest =>
    if name = other then (name, node) :: rest else (other, kept) :: put rest name node

end Entries

/-- A place in a tree, by the names on the way from the root. -/
abbrev Place := List String

/-- A tree, by the entries of its root. -/
structure Tree where
  entries : Entries

namespace Tree

def empty : Tree := ⟨[]⟩

/-- The entry at a place under some entries. -/
def getFrom? (entries : Entries) : Place → Option Node
  | [] => some (.directory entries)
  | [name] => entries.get? name
  | name :: rest =>
    match entries.get? name with
    | some (.directory below) => getFrom? below rest
    | _ => none

/-- The entry at a place. -/
def get? (t : Tree) (place : Place) : Option Node :=
  getFrom? t.entries place

/-- Changes the entries of the directory at a place. Where there is no directory nothing changes. -/
def changeFrom (change : Entries → Entries) (entries : Entries) : Place → Entries
  | [] => change entries
  | name :: rest =>
    match entries.get? name with
    | some (.directory below) => entries.put name (.directory (changeFrom change below rest))
    | _ => entries

/-- Puts an entry into the directory at a place. -/
def put (t : Tree) (place : Place) (name : String) (node : Node) : Tree :=
  ⟨changeFrom (·.put name node) t.entries place⟩

mutual

/-- The entries at and below a node, whose place is given. -/
def placesOf (place : Place) : Node → List (Place × Kind)
  | .file _ => [(place, .file)]
  | .directory entries => (place, .directory) :: placesOfAll place entries

/-- The entries below a directory, whose place is given. -/
def placesOfAll (place : Place) : List (String × Node) → List (Place × Kind)
  | [] => []
  | (name, node) :: rest => placesOf (place ++ [name]) node ++ placesOfAll place rest

end

/-- All entries of a tree but the root, each directory before what is in it. -/
def places (t : Tree) : List (Place × Kind) :=
  placesOfAll [] t.entries

end Tree

end LinkGate.Files
