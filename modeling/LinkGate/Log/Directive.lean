import LinkGate.Log.Event
import LinkGate.Log.FieldTest
import LinkGate.Number.Digits
import LinkGate.Text.Alphanumeric
import LinkGate.Text.Ascii
import LinkGate.Text.Blank
import LinkGate.Text.Utf8

/-!
Directives: the parts of a log filter. A directive is a level, which is about all events, or a
target with a level, which is about the events whose target starts with it. After a target, or in
its place, a span in brackets may stand, with a field in braces. A directive with a field is about
the events that have the field. A directive that names a span, or asks for a value of its field, is
about no event, because the program has no spans. The value still has to be one that can be asked
for.
-/

namespace LinkGate.Log

/-- The levels up to which events are shown, or `none` if no event is. -/
abbrev Limit := Option Level

namespace Limit

def admits (limit : Limit) (level : Level) : Bool :=
  match limit with
  | none => false
  | some l => level.rank ≤ l.rank

/-- The limits, each by its name. -/
def names : List (String × Limit) :=
  [("off", none), ("error", some .error), ("warn", some .warn), ("info", some .info),
    ("debug", some .debug), ("trace", some .trace)]

/-- The limit that a decimal number stands for, zero for the first of the names. The number may have
a plus sign and zeros in front. -/
def ofNumber? (text : List Char) : Option Limit :=
  let digits := match text with
    | '+' :: r => r
    | s => s
  if digits.isEmpty || !digits.all Char.isDigit then none
  else (names[Number.ofDigits 10 digits]?).map (·.2)

/-- The limit that a text stands for, which is a number or a name in any letter case. -/
def ofText? (text : List Char) : Option Limit :=
  match ofNumber? text with
  | some limit => some limit
  | none => names.lookup (String.ofList (Text.lower text))

/-- The limit that stands after the equals sign of a directive. Nothing stands for everything. -/
def ofSuffix? (text : List Char) : Option Limit :=
  if text.isEmpty then some (some .trace) else ofText? text

end Limit

/-- A part of a filter: which events it is about, and how much is shown of them. -/
structure Directive where
  target : Option String
  span : Option String
  field : Option FieldTest
  limit : Limit
  deriving DecidableEq, Repr

namespace Directive

def global (limit : Limit) : Directive := ⟨none, none, none, limit⟩

def ofTarget (target : String) (limit : Limit) : Directive := ⟨some target, none, none, limit⟩

/-! ### Reading

The parts of a directive are told apart as if no blanks stood around it. Each part is then cut from
the text with its blanks, at the offsets in bytes that it has without them. So blanks after a
directive are in its last part, and blanks before it shift all parts but the first. -/

/-- Whether `c` may be the first character of a target. -/
def mayStart (c : Char) : Bool :=
  Text.isAlphanumeric c || c == '-' || c == ':' || c == '_'

def size (s : List Char) : Nat := (Text.Utf8.encode s).length

/-- The directive that one word stands for: a level or, with everything shown, a target. -/
def ofWord (text : List Char) : Directive :=
  match Limit.ofText? text with
  | some limit => global limit
  | none => ofTarget (String.ofList text) (some .trace)

/-- Reads the end of a directive: nothing, or an equals sign and a level. The end stands at an
offset in bytes of the whole text. -/
def readLimit (whole : List UInt8) (offset : Nat) : List Char → Option Limit
  | [] => some (some .trace)
  | '=' :: _ => do Limit.ofSuffix? (← Text.Utf8.piece? whole (offset + 1) whole.length)
  | _ => none

/-- Reads the inside of the brackets, which stands at an offset in bytes of the whole text, and what
follows it. -/
def readSpan (whole : List UInt8) (target : Option String) (offset : Nat) (s : List Char) :
    Option Directive :=
  let isNameChar (c : Char) : Bool := c != ']' && c != '\x7b'
  let stop := offset + size (s.takeWhile isNameChar)
  match s.dropWhile isNameChar with
  | ']' :: r => do
    let name ← Text.Utf8.piece? whole offset stop
    some ⟨target, some (String.ofList name), none, ← readLimit whole (stop + 1) r⟩
  | '\x7b' :: r => do
    let name ← Text.Utf8.piece? whole offset stop
    let span := if name.isEmpty then none else some (String.ofList name)
    let start := stop + 1
    let stop := start + size (r.takeWhile (· ≠ '\x7d'))
    let field ← Text.Utf8.piece? whole start stop
    match r.dropWhile (· ≠ '\x7d') with
    | _ :: ']' :: r =>
      if field.isEmpty then none
      else some ⟨target, span, some (← FieldTest.ofText? field), ← readLimit whole (stop + 2) r⟩
    | _ => none
  | _ => none

def parse? (text : List Char) : Option Directive :=
  let whole := Text.Utf8.encode text
  match Text.trim text with
  | [] => none
  | '[' :: r => readSpan whole none 1 r
  | c :: r =>
    let isTargetChar (c : Char) : Bool := c != '=' && c != '['
    let stop := size ((c :: r).takeWhile isTargetChar)
    if !mayStart c then none
    else match (c :: r).dropWhile isTargetChar with
      | [] => some (ofWord text)
      | '[' :: r => do
        let target ← Text.Utf8.piece? whole 0 stop
        readSpan whole (some (String.ofList target)) (stop + 1) r
      | r => do
        let target ← Text.Utf8.piece? whole 0 stop
        some (ofTarget (String.ofList target) (← readLimit whole stop r))

/-! ### Choosing -/

def holdsFor (d : Directive) (e : Event) : Bool :=
  d.span.isNone &&
    (match d.target with
      | none => true
      | some target => target.toList.isPrefixOf e.target.toList) &&
    (match d.field with
      | none => true
      | some test => !test.hasValue && e.fields.contains test.name)

/-- The length of the target, which every target has more of than none. -/
def targetRank (d : Directive) : Nat :=
  match d.target with
  | none => 0
  | some target => target.length + 1

/-- Whether of two directives about one event the first decides and not the second, if it comes
later. A longer target goes first, then a field before none, then the greater name of the field. -/
def overrides (d other : Directive) : Bool :=
  if d.targetRank ≠ other.targetRank then other.targetRank < d.targetRank
  else match d.field, other.field with
    | _, none => true
    | none, some _ => false
    | some test, some otherTest => otherTest.name ≤ test.name

end Directive

end LinkGate.Log
