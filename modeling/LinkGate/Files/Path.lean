import LinkGate.Text.Utf8

/-!
Paths as texts. The names of a path are parted by slashes; repeated slashes and the name `.` in the
middle or at the end add nothing. A path is kept as it was given, because messages show it.
-/

namespace LinkGate.Files

/-- A path as a text. -/
structure Path where
  text : String
  deriving DecidableEq, Repr

inductive Step
  /-- Stay, for the name `.`. -/
  | stay
  /-- Go up to the directory above, for the name `..`. -/
  | up
  /-- Go down to an entry of the directory. -/
  | down (name : String)
  deriving DecidableEq, Repr

/-- The step that a part of a path stands for; between two slashes in a row there is none. -/
def stepOf? (part : List Char) : Option Step :=
  if part.isEmpty then none
  else if part = ['.'] then some .stay
  else if part = ['.', '.'] then some .up
  else some (.down (String.ofList part))

def greatestNameSize : Nat := 255

def isNameTooLong (name : String) : Bool :=
  greatestNameSize < (Text.toBytes name).length

namespace Path

def isAbsolute (p : Path) : Bool :=
  p.text.toList.head? == some '/'

def greatestSize : Nat := 4095

def isTooLong (p : Path) : Bool :=
  greatestSize < (Text.toBytes p.text).length

/-- Whether the path holds the character with number zero, which no path can hold. -/
def hasNul (p : Path) : Bool :=
  p.text.toList.contains '\x00'

/-- Whether the path ends in a slash, which only the path of a directory may. -/
def endsInSlash (p : Path) : Bool :=
  p.text.toList.getLast? == some '/'

/-- The steps of the walk from the root along the path. -/
def steps (p : Path) : List Step :=
  (p.text.toList.splitOn '/').filterMap stepOf?

/-- The path with one more name. -/
def join (p : Path) (name : String) : Path :=
  if p.text.isEmpty || p.endsInSlash then ⟨p.text ++ name⟩ else ⟨p.text ++ "/" ++ name⟩

/-- Takes slashes and names `.` off the end of a text in reverse. The root and a name `.` at the
very start stay. -/
def trimReversed : List Char → List Char
  | [] => []
  | c :: s =>
    if (c = '/' ∧ s ≠ []) ∨ (c = '.' ∧ s.head? = some '/') then trimReversed s else c :: s

/-- The path without its last name, unless it has none. -/
def parent? (p : Path) : Option Path :=
  match trimReversed p.text.toList.reverse with
  | [] | ['/'] => none
  | s => some ⟨String.ofList (trimReversed (s.dropWhile (· ≠ '/'))).reverse⟩

/-- The path, its parent, the parent of that, and so on, of which at most `limit` are listed. -/
def lineageUpTo : (limit : Nat) → Path → List Path
  | 0, _ => []
  | n + 1, p => p :: (match p.parent? with
    | some q => lineageUpTo n q
    | none => [])

/-- The path and all paths above it, the lowest first. A parent is shorter than its path, so the
list is complete. -/
def lineage (p : Path) : List Path :=
  lineageUpTo (p.text.length + 1) p

end Path

end LinkGate.Files
