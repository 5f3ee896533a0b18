/-!
Numbers read from their digits.
-/

namespace LinkGate.Number

/-- The value of a digit in a base up to sixteen, in either letter case. -/
def digitValue (c : Char) : Nat :=
  if c.isDigit then c.toNat - '0'.toNat
  else if c.isLower then c.toNat - 'a'.toNat + 10
  else c.toNat - 'A'.toNat + 10

def isDigitIn (base : Nat) (c : Char) : Bool :=
  c.isAlphanum && digitValue c < base

/-- The number that the digits write in the given base. -/
def ofDigits (base : Nat) (digits : List Char) : Nat :=
  digits.foldl (fun n c => base * n + digitValue c) 0

end LinkGate.Number
