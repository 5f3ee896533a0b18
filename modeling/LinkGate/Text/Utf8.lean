/-!
The encoding UTF-8 of text as bytes. Reading is strict: an overlong form, a surrogate, a number
past U+10FFFF, a stray continuation byte and a sequence cut short are all refused.
-/

namespace LinkGate.Text.Utf8

/-- The low six bits of `n` as a continuation byte. -/
def tailByte (n : Nat) : UInt8 := UInt8.ofNat (0x80 + n % 64)

def encodeChar (c : Char) : List UInt8 :=
  let n := c.toNat
  if n < 0x80 then [UInt8.ofNat n]
  else if n < 0x800 then [UInt8.ofNat (0xC0 + n / 64), tailByte n]
  else if n < 0x10000 then [UInt8.ofNat (0xE0 + n / 4096), tailByte (n / 64), tailByte n]
  else [UInt8.ofNat (0xF0 + n / 262144), tailByte (n / 4096), tailByte (n / 64), tailByte n]

def encode (s : List Char) : List UInt8 :=
  s.flatMap encodeChar

@[simp] theorem encode_nil : encode [] = [] := rfl

@[simp] theorem encode_append (s t : List Char) : encode (s ++ t) = encode s ++ encode t := by
  simp [encode]

/-- A character under way: how many continuation bytes are still owed, the bits read so far, and
the least number that needs a sequence of this length. -/
structure Partial where
  owed : Nat
  bits : Nat
  least : Nat

/-- What a first byte begins. -/
inductive Lead
  /-- The byte is a character by itself. -/
  | whole (c : Char)
  /-- The byte begins a longer sequence. -/
  | begins (p : Partial)

/-- What `b` begins, if it may begin a character. -/
def lead? (b : UInt8) : Option Lead :=
  let n := b.toNat
  if n < 0x80 then some (.whole (Char.ofNat n))
  else if n < 0xC0 then none
  else if n < 0xE0 then some (.begins ⟨1, n - 0xC0, 0x80⟩)
  else if n < 0xF0 then some (.begins ⟨2, n - 0xE0, 0x800⟩)
  else if n < 0xF8 then some (.begins ⟨3, n - 0xF0, 0x10000⟩)
  else none

/-- The character with number `n`, unless `n` is below `least` or is no character's number. -/
def scalar? (least n : Nat) : Option Char :=
  if least ≤ n ∧ n.isValidChar then some (Char.ofNat n) else none

/-- Reads bytes in the middle of the character `state`, or between two characters. -/
def decodeFrom : (state : Option Partial) → List UInt8 → Option (List Char)
  | none, [] => some []
  | some _, [] => none
  | none, b :: r =>
    match lead? b with
    | some (.whole c) => (decodeFrom none r).map (c :: ·)
    | some (.begins p) => decodeFrom (some p) r
    | none => none
  | some p, b :: r =>
    let n := b.toNat
    if 0x80 ≤ n ∧ n < 0xC0 then
      let bits := 64 * p.bits + (n - 0x80)
      if p.owed ≤ 1 then
        match scalar? p.least bits with
        | some c => (decodeFrom none r).map (c :: ·)
        | none => none
      else decodeFrom (some { p with owed := p.owed - 1, bits := bits }) r
    else none

/-- The text that the bytes encode, if they are well formed. -/
def decode? (bytes : List UInt8) : Option (List Char) :=
  decodeFrom none bytes

/-- The piece of a text from one byte up to another, unless that cuts a character in two. -/
def piece? (bytes : List UInt8) (first last : Nat) : Option (List Char) :=
  decode? ((bytes.take last).drop first)

end LinkGate.Text.Utf8

namespace LinkGate.Text

def toBytes (s : String) : List UInt8 :=
  Utf8.encode s.toList

/-- The text that bytes in UTF-8 hold, if they are well formed. -/
def ofBytes? (bytes : List UInt8) : Option String :=
  (Utf8.decode? bytes).map String.ofList

end LinkGate.Text
