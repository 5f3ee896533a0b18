import LinkGate.Number.Digits
import LinkGate.Toml.Value

/-!
TOML dates and times: a date, a time of day, or a date and a time with a `T` or a space between
them, and after both an optional offset from universal time. The parts have to lie in their ranges,
and the month has to have the day.
-/

namespace LinkGate.Toml

/-- Reads a number of exactly `count` digits that lies between `low` and `high`. -/
def readFixed (count low high : Nat) (s : List Char) : Option (Nat × List Char) :=
  let digits := s.take count
  let n := Number.ofDigits 10 digits
  if digits.length = count ∧ digits.all Char.isDigit ∧ low ≤ n ∧ n ≤ high then
    some (n, s.drop count)
  else none

def readChar (c : Char) : List Char → Option (List Char)
  | d :: r => if c = d then some r else none
  | [] => none

def isLeapYear (year : Nat) : Bool :=
  year % 4 == 0 && (year % 100 != 0 || year % 400 == 0)

def daysInMonth (year month : Nat) : Nat :=
  if month = 2 then (if isLeapYear year then 29 else 28)
  else if month = 4 ∨ month = 6 ∨ month = 9 ∨ month = 11 then 30
  else 31

def readDate (s : List Char) : Option (Date × List Char) := do
  let (year, s) ← readFixed 4 0 9999 s
  let s ← readChar '-' s
  let (month, s) ← readFixed 2 1 12 s
  let s ← readChar '-' s
  let (day, s) ← readFixed 2 1 (daysInMonth year month) s
  some (⟨year, month, day⟩, s)

/-- Reads the fraction of a second, if there is one. -/
def readSecondFraction : List Char → List Char × List Char
  | '.' :: c :: r =>
    if c.isDigit then (c :: r.takeWhile Char.isDigit, r.dropWhile Char.isDigit)
    else ([], '.' :: c :: r)
  | s => ([], s)

/-- Reads a time of day. The last second of a minute may be a leap second. -/
def readTime (s : List Char) : Option (Time × List Char) := do
  let (hour, s) ← readFixed 2 0 23 s
  let s ← readChar ':' s
  let (minute, s) ← readFixed 2 0 59 s
  let s ← readChar ':' s
  let (second, s) ← readFixed 2 0 60 s
  let (fraction, s) := readSecondFraction s
  some (⟨hour, minute, second, fraction⟩, s)

def readOffset : List Char → Option (Offset × List Char)
  | [] => none
  | c :: s =>
    if c = 'Z' ∨ c = 'z' then some (⟨0⟩, s)
    else if c = '+' ∨ c = '-' then do
      let (hours, s) ← readFixed 2 0 23 s
      let s ← readChar ':' s
      let (minutes, s) ← readFixed 2 0 59 s
      let distance : Int := 60 * hours + minutes
      some (⟨if c = '-' then -distance else distance⟩, s)
    else none

/-- Reads a time of day after the character that parts it from a date. -/
def readTimeOfDate : List Char → Option (Time × List Char)
  | [] => none
  | c :: s => if c = 'T' ∨ c = 't' ∨ c = ' ' then readTime s else none

/-- Reads a date, a time of day, or both. -/
def readMoment (s : List Char) : Option (Moment × List Char) :=
  match readDate s with
  | some (date, s) =>
    match readTimeOfDate s with
    | some (time, s) =>
      match readOffset s with
      | some (offset, s) => some (⟨some date, some time, some offset⟩, s)
      | none => some (⟨some date, some time, none⟩, s)
    | none => some (⟨some date, none, none⟩, s)
  | none => (readTime s).map fun (time, s) => (⟨none, some time, none⟩, s)

end LinkGate.Toml
