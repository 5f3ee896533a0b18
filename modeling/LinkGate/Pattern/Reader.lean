import LinkGate.Pattern.CharacterClass
import LinkGate.Text.Alphanumeric

/-!
Patterns: regular expressions that the value of a field may be asked to match. Every part of a
pattern takes characters, so the length of the text bounds the recursion.
-/

namespace LinkGate.Pattern

inductive Part
  /-- What can be matched, and so repeated, with its depth. -/
  | matched (depth : Nat)
  /-- Flags for what follows. -/
  | flags
  deriving DecidableEq, Repr

def Part.depth : Part → Nat
  | matched d => d
  | flags => 0

/-- A group up to the place that has been read. -/
structure OpenGroup where
  mode : Mode
  /-- The depths of the branches before the last bar. -/
  branches : List Nat
  /-- The parts since then, last one first. -/
  parts : List Part
  deriving DecidableEq, Repr

namespace OpenGroup

/-- A group of which nothing but the opening has been read. -/
def empty (mode : Mode) : OpenGroup := ⟨mode, [], []⟩

def add (g : OpenGroup) (part : Part) : OpenGroup := ⟨g.mode, g.branches, part :: g.parts⟩

def branchDepth (g : OpenGroup) : Nat := rowDepth (g.parts.map Part.depth)

/-- The group after a bar. -/
def branch (g : OpenGroup) : OpenGroup := ⟨g.mode, g.branchDepth :: g.branches, []⟩

def withFlags (g : OpenGroup) (flags : Flags) : OpenGroup :=
  ⟨g.mode.update flags, g.branches, .flags :: g.parts⟩

/-- The group with its last part repeated, if there is one that can be. -/
def repeated? (g : OpenGroup) : Option OpenGroup :=
  match g.parts with
  | .matched d :: parts => some ⟨g.mode, g.branches, .matched (d + 1) :: parts⟩
  | _ => none

/-- The depth of what has been read. -/
def depth (g : OpenGroup) : Nat := rowDepth (g.branchDepth :: g.branches)

end OpenGroup

def isGroupName : List Char → Bool
  | [] => false
  | c :: r =>
    (c = '_' || Text.isAlphabetic c) &&
      r.all fun c => c = '_' || c = '.' || c = '[' || c = ']' || Text.isAlphanumeric c

/-- What a parenthesis opens. -/
inductive Opening
  /-- A group with a name. -/
  | named (name : List Char)
  /-- A group in which flags hold. -/
  | group (flags : Flags)
  /-- No group but flags, which hold from there on. -/
  | setting (flags : Flags)
  deriving DecidableEq, Repr

/-- Reads the name of a group and the angle bracket that closes it. -/
def readGroupName (s : List Char) : Option (Opening × List Char) :=
  match s.dropWhile (· ≠ '>') with
  | _ :: r =>
    let name := s.takeWhile (· ≠ '>')
    if isGroupName name then some (.named name, r) else none
  | [] => none

/-- Reads the opening of a group after its parenthesis. -/
def readOpening (mode : Mode) (s : List Char) : Option (Opening × List Char) :=
  match skip mode s with
  | '?' :: 'P' :: '<' :: r | '?' :: '<' :: r => readGroupName r
  | '?' :: r =>
    match readFlags [] r with
    | some (flags, ':' :: r) => some (.group flags, r)
    | some (flags, _ :: r) => if flags.isEmpty then none else some (.setting flags, r)
    | _ => none
  | r => some (.group [], r)

/-- A group that has been read. -/
structure Group where
  depth : Nat
  /-- The names of all groups up to its end. -/
  names : List (List Char)
  /-- What follows: nothing, or the parenthesis that closes the group. -/
  rest : List Char

/-- Reads a group up to its closing parenthesis or the end of the text. No two groups have one name.
An opening brace would be that of a count, whose closing one cannot follow, because it would close
the braces that the pattern stands in. -/
def readGroup : (fuel : Nat) → (names : List (List Char)) → OpenGroup → List Char → Option Group
  | 0, _, _, _ => none
  | n + 1, names, g, s =>
    match skip g.mode s with
    | [] => some ⟨g.depth, names, []⟩
    | ')' :: r => some ⟨g.depth, names, ')' :: r⟩
    | '|' :: r => readGroup n names g.branch r
    | '\x7b' :: _ => none
    | '[' :: r => do
      let (depth, r) ← readClass g.mode r
      readGroup n names (g.add (.matched depth)) r
    | '(' :: r => do
      let (opening, r) ← readOpening g.mode r
      let readInner (names : List (List Char)) (mode : Mode) : Option Group := do
        let inner ← readGroup n names (.empty mode) r
        match inner.rest with
        | _ :: r => readGroup n inner.names (g.add (.matched (inner.depth + 1))) r
        | [] => none
      match opening with
      | .setting flags => readGroup n names (g.withFlags flags) r
      | .group flags => readInner names (g.mode.update flags)
      | .named name => if names.contains name then none else readInner (name :: names) g.mode
    | c :: r =>
      if c = '?' ∨ c = '*' ∨ c = '+' then do
        let r := match r with
          | '?' :: r => r
          | r => r
        readGroup n names (← g.repeated?) r
      else do
        let (atom, r) ← readAtom g.mode (c :: r)
        if atom.isUsable g.mode then readGroup n names (g.add (.matched 0)) r else none

/-- Whether a text is a pattern that values can be matched with. -/
def isPattern (s : List Char) : Bool :=
  match readGroup (s.length + 1) [] (.empty .initial) s with
  | some g => g.rest.isEmpty && g.depth ≤ depthLimit
  | none => false

end LinkGate.Pattern
