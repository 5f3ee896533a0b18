import LinkGate.Number.Digits
import LinkGate.Toml.Value

/-!
TOML numbers. An underscore may stand between two digits; a decimal number has no zero before its
first digit; a number in another base has no sign. Each reader gives the number with what follows
it.
-/

namespace LinkGate.Toml

/-- Reads the digits that follow a digit, without the underscores between them. -/
def readMoreDigits (isDigit : Char → Bool) : List Char → List Char × List Char
  | [] => ([], [])
  | '_' :: c :: r =>
    if isDigit c then
      let (digits, rest) := readMoreDigits isDigit r
      (c :: digits, rest)
    else ([], '_' :: c :: r)
  | c :: r =>
    if isDigit c then
      let (digits, rest) := readMoreDigits isDigit r
      (c :: digits, rest)
    else ([], c :: r)

/-- Reads digits, of which there has to be one. -/
def readDigits (isDigit : Char → Bool) : List Char → Option (List Char × List Char)
  | [] => none
  | c :: r =>
    if isDigit c then
      let (digits, rest) := readMoreDigits isDigit r
      some (c :: digits, rest)
    else none

/-- Reads an optional sign; the first part tells whether it is a minus. -/
def readSign : List Char → Bool × List Char
  | '-' :: r => (true, r)
  | '+' :: r => (false, r)
  | s => (false, s)

/-- Reads the digits of a whole decimal number: a zero, or digits of which the first is not zero. -/
def readWhole : List Char → Option (List Char × List Char)
  | '0' :: r => some (['0'], r)
  | s => readDigits Char.isDigit s

/-- Reads the fraction of a number with its point. -/
def readFraction : List Char → Option (List Char × List Char)
  | '.' :: r => readDigits Char.isDigit r
  | _ => none

/-- Reads the exponent of a number with its letter. -/
def readExponent : List Char → Option (Int × List Char)
  | [] => none
  | c :: r =>
    if c = 'e' ∨ c = 'E' then
      let (negative, r) := readSign r
      (readDigits Char.isDigit r).map fun (digits, rest) =>
        let n : Int := Number.ofDigits 10 digits
        (if negative then -n else n, rest)
    else none

/-- The double nearest to a decimal number, unless that is positive infinity. -/
def float? (negative : Bool) (digits : List Char) (exponent : Int) : Option Number.Binary64 :=
  let x := Number.Binary64.ofDecimal negative (Number.ofDigits 10 digits) exponent
  if x = .infinite false then none else some x

/-- Reads a number with a fraction, an exponent or both. -/
def readDecimalFloat (s : List Char) : Option (Number.Binary64 × List Char) := do
  let (negative, s) := readSign s
  let (whole, s) ← readWhole s
  match readFraction s with
  | some (fraction, s) =>
    let (exponent, s) := (readExponent s).getD (0, s)
    let x ← float? negative (whole ++ fraction) (exponent - fraction.length)
    some (x, s)
  | none =>
    let (exponent, s) ← readExponent s
    let x ← float? negative whole exponent
    some (x, s)

/-- Reads infinity or a number that is none. -/
def readSpecialFloat (s : List Char) : Option (Number.Binary64 × List Char) :=
  let (negative, s) := readSign s
  match s with
  | 'i' :: 'n' :: 'f' :: r => some (.infinite negative, r)
  | 'n' :: 'a' :: 'n' :: r => some (.nan, r)
  | _ => none

def readFloat (s : List Char) : Option (Number.Binary64 × List Char) :=
  (readDecimalFloat s).or (readSpecialFloat s)

/-- The integer with the given sign and magnitude, if it fits in 64 bits. -/
def int64? (negative : Bool) (magnitude : Nat) : Option Int :=
  if negative then
    if magnitude ≤ Nat.pow 2 63 then some (-(magnitude : Int)) else none
  else if magnitude < Nat.pow 2 63 then some magnitude else none

/-- Reads the digits of an integer in another base than ten. -/
def readInBase (base : Nat) (s : List Char) : Option (Int × List Char) := do
  let (digits, s) ← readDigits (Number.isDigitIn base) s
  let n ← int64? false (Number.ofDigits base digits)
  some (n, s)

def readInteger : List Char → Option (Int × List Char)
  | '0' :: 'x' :: r => readInBase 16 r
  | '0' :: 'o' :: r => readInBase 8 r
  | '0' :: 'b' :: r => readInBase 2 r
  | s => do
    let (negative, s) := readSign s
    let (digits, s) ← readWhole s
    let n ← int64? negative (Number.ofDigits 10 digits)
    some (n, s)

end LinkGate.Toml
