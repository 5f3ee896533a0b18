/-!
Text for a terminal. Some controls move the cursor or start a command to the terminal; they are
written as escapes, so that a text that came from outside cannot steer the terminal on which a log
is read. All other characters stand for themselves, the line feed too.
-/

namespace LinkGate.Text.Terminal

/-- Whether `c` is a control that steers a terminal: bell, backspace, form feed, escape, delete, and
the controls from U+0080 to U+009F. -/
def isSteering (c : Char) : Bool :=
  c == '\x07' || c == '\x08' || c == '\x0c' || c == '\x1b' || c == '\x7f' ||
    (0x80 ≤ c.toNat && c.toNat ≤ 0x9F)

def encodeChar (c : Char) : List Char :=
  let n := c.toNat
  if !isSteering c then [c]
  else if n < 0x80 then ['\\', 'x', Nat.digitChar (n / 16), Nat.digitChar (n % 16)]
  else '\\' :: 'u' :: '\x7b' :: (Nat.toDigits 16 n ++ ['\x7d'])

/-- The text with all controls that steer a terminal written as escapes. -/
def encode (s : List Char) : List Char :=
  s.flatMap encodeChar

end LinkGate.Text.Terminal
