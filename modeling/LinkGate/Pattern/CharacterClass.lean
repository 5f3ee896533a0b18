import LinkGate.Pattern.Atom
import LinkGate.Pattern.Depth

/-!
Classes of characters: sets in brackets, whose members are characters, ranges, named classes and
classes again, and which operators of two characters join.
-/

namespace LinkGate.Pattern

def classNames : List String :=
  ["alnum", "alpha", "ascii", "blank", "cntrl", "digit", "graph", "lower", "print", "punct",
    "space", "upper", "word", "xdigit"]

/-- Reads a named class after its first bracket, and gives whether it is negated. -/
def readNamedClass : List Char → Option (Bool × List Char)
  | ':' :: r =>
    let (negated, r) := match r with
      | '^' :: r => (true, r)
      | r => (false, r)
    let name := String.ofList (r.takeWhile (· ≠ ':'))
    match r.dropWhile (· ≠ ':') with
    | ':' :: ']' :: t => if classNames.contains name then some (negated, t) else none
    | _ => none
  | _ => none

/-- Reads a character or an escape in a class. -/
def readMember (mode : Mode) : List Char → Option (Atom × List Char)
  | [] => none
  | '\\' :: r => readEscape mode r
  | c :: r => some (.literal c false, r)

/-- Reads a member of a class, or a range of which it is the first, and gives what follows. A hyphen
before the closing bracket or before another hyphen makes no range. -/
def readRange (mode : Mode) (s : List Char) : Option (List Char) := do
  let (first, r) ← readMember mode s
  let alone := if first.isMember mode then some (skip mode r) else none
  match skip mode r with
  | '-' :: t =>
    let next := peek? mode t
    if next = some ']' ∨ next = some '-' then alone
    else
      let (last, t) ← readMember mode (skip mode t)
      if first.isRange mode last then some t else none
  | _ => alone

/-- A class up to the place that has been read. -/
structure OpenClass where
  /-- Whether only hyphens have been read, which stand for themselves. -/
  atStart : Bool
  /-- The depth of the sets before the last operator, if there was one. -/
  joined : Option Nat
  /-- The depths of the members since then. -/
  members : List Nat
  deriving DecidableEq, Repr

namespace OpenClass

/-- A class of which nothing but the opening has been read. -/
def empty : OpenClass := ⟨true, none, []⟩

def add (cls : OpenClass) (depth : Nat) : OpenClass :=
  ⟨false, cls.joined, depth :: cls.members⟩

def depth (cls : OpenClass) : Nat :=
  match cls.joined with
  | none => rowDepth cls.members
  | some d => max d (rowDepth cls.members) + 1

/-- The class after an operator. -/
def join (cls : OpenClass) : OpenClass :=
  ⟨false, some cls.depth, []⟩

end OpenClass

/-- The characters that make an operator if they stand twice. -/
def operatorCharacters : List Char := ['&', '-', '~']

/-- Reads the opening of a class after its bracket: a sign that negates it, or nothing. -/
def readClassOpening (mode : Mode) (s : List Char) : Option (List Char) :=
  match skip mode s with
  | '^' :: r => if mode.unicode then some r else none
  | r => some r

/-- Reads the members of a class and its closing bracket, and gives the depth of the class. A
closing bracket that nothing stands before is a member. A class of bytes cannot be negated, because
it would have parts of characters in it. -/
def readMembers (mode : Mode) : (fuel : Nat) → OpenClass → List Char → Option (Nat × List Char)
  | 0, _, _ => none
  | n + 1, cls, s =>
    match skip mode s with
    | [] => none
    | c :: r =>
      if cls.atStart && c = '-' then
        readMembers mode n ⟨true, none, 0 :: cls.members⟩ r
      else if c = ']' then
        if cls.atStart && cls.members.isEmpty then readMembers mode n (cls.add 0) r
        else some (cls.depth + 1, r)
      else if operatorCharacters.contains c && r.head? = some c then
        readMembers mode n cls.join r.tail
      else if c = '[' then
        match readNamedClass r with
        | some (negated, r) =>
          if mode.unicode || !negated then readMembers mode n (cls.add 0) r else none
        | none => do
          let (depth, r) ← readMembers mode n .empty (← readClassOpening mode r)
          readMembers mode n (cls.add depth) r
      else do readMembers mode n (cls.add 0) (← readRange mode (c :: r))

/-- Reads a class after its first bracket, and gives its depth. -/
def readClass (mode : Mode) (s : List Char) : Option (Nat × List Char) := do
  readMembers mode (s.length + 1) .empty (← readClassOpening mode s)

end LinkGate.Pattern
