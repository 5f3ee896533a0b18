import LinkGate.Text.Utf8

/-!
Lines that are written, and lines of an input stream of bytes. A line of the input ends at a line
feed; the last line may lack one. Of the carriage returns at its end an ended line loses up to two,
one as part of its ending and one as part of a doubled ending, and the line without a line feed
loses at most one. Reading stops at the first line that is not well-formed UTF-8.
-/

namespace LinkGate.Text

/-- Lines as a text, each with its line feed. -/
def ofLines (lines : List String) : String :=
  String.join (lines.map (· ++ "\n"))

/-- A line as it stands in the stream, without its line feed. -/
structure RawLine where
  bytes : List UInt8
  /-- Whether a line feed ended the line. -/
  ended : Bool
  deriving DecidableEq

namespace RawLine

/-- Cuts a stream into lines, where `line` holds in reverse what has been read of the present
one. -/
def cutFrom (line : List UInt8) : List UInt8 → List RawLine
  | [] => if line.isEmpty then [] else [⟨line.reverse, false⟩]
  | b :: r => if b = 10 then ⟨line.reverse, true⟩ :: cutFrom [] r else cutFrom (b :: line) r

def cut (stream : List UInt8) : List RawLine :=
  cutFrom [] stream

end RawLine

/-- The text without one carriage return at its end, if it ends in one. -/
def dropReturn (s : List Char) : List Char :=
  if s.getLast? = some '\r' then s.dropLast else s

def RawLine.text? (line : RawLine) : Option (List Char) :=
  (Utf8.decode? line.bytes).map fun s =>
    if line.ended then dropReturn (dropReturn s) else dropReturn s

/-- The lines of a stream up to the first that cannot be decoded. -/
structure Lines where
  /-- The texts of the lines before the first that cannot be decoded. -/
  texts : List String
  /-- The number of that line, the first line of the stream being number one. -/
  undecodable : Option Nat
  deriving DecidableEq

namespace Lines

/-- Reads lines of which the first has the given number. -/
def readFrom (number : Nat) : List RawLine → Lines
  | [] => ⟨[], none⟩
  | line :: rest =>
    match line.text? with
    | none => ⟨[], some number⟩
    | some s =>
      let tail := readFrom (number + 1) rest
      ⟨String.ofList s :: tail.texts, tail.undecodable⟩

def read (stream : List UInt8) : Lines :=
  readFrom 1 (RawLine.cut stream)

end Lines

end LinkGate.Text
