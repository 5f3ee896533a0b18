import LinkGate.Number.Binary64

/-!
The shortest decimal text of a double: the fewest digits that are read back as the same double, and
of those the nearest to its value. A style says how the digits are laid out, and which of two
equally near decimals is taken.
-/

namespace LinkGate.Number

/-- The number `digits * 10 ^ exponent`. -/
structure Decimal where
  digits : Nat
  exponent : Int
  deriving DecidableEq, Repr

namespace Decimal

/-- The same number without zeros at the end of its digits, of which at most `fuel` are taken
off. -/
def trim : (fuel : Nat) → Decimal → Decimal
  | 0, d => d
  | n + 1, d =>
    if d.digits ≠ 0 ∧ d.digits % 10 = 0 then trim n ⟨d.digits / 10, d.exponent + 1⟩ else d

/-- The decimal exponent of the first digit. -/
def leading (d : Decimal) : Int :=
  d.exponent + (decimalLength d.digits : Int) - 1

/-- The number written out with a point and at least one digit on each side of it. -/
def inFull (d : Decimal) : List Char :=
  let digits := Nat.toDigits 10 d.digits
  if 0 ≤ d.exponent then
    digits ++ List.replicate d.exponent.toNat '0' ++ ['.', '0']
  else
    let places := (-d.exponent).toNat
    let digits := List.replicate (places + 1 - digits.length) '0' ++ digits
    digits.take (digits.length - places) ++ '.' :: digits.drop (digits.length - places)

/-- The number written with one digit before the point, and an exponent with its sign. Where no
digit follows the point there is no point. -/
def withExponent (d : Decimal) : List Char :=
  let fraction := (Nat.toDigits 10 d.digits).drop 1
  (Nat.toDigits 10 d.digits).take 1 ++ (if fraction.isEmpty then [] else '.' :: fraction) ++
    'e' :: (if d.leading < 0 then '-' else '+') :: Nat.toDigits 10 d.leading.natAbs

end Decimal

/-- Which of two decimals that are equally near to a value is taken. -/
inductive Tie
  | greater
  | even
  deriving DecidableEq, Repr

structure Style where
  tie : Tie
  /-- The decimal exponents of the first digit, from the least to the greatest, with which a number
  is written in full. Without them every number is. -/
  fullExponents : Option (Int × Int)
  deriving DecidableEq, Repr

def Style.display (style : Style) (d : Decimal) : List Char :=
  match style.fullExponents with
  | none => d.inFull
  | some (least, greatest) =>
    if d.digits = 0 ∨ (least ≤ d.leading ∧ d.leading ≤ greatest) then d.inFull
    else d.withExponent

/-- The decimal exponent of the first digit of `num / den`. -/
def leadingExponent (num den : Nat) : Int :=
  if den ≤ num then decimalLength (num / den) - 1
  else -(decimalLength ((den - 1) / num) : Int)

/-- The reals that are read as a certain double, all over one denominator: from `low` to `high`
around `value`, with both ends if `closed`. -/
structure Neighbourhood where
  low : Nat
  value : Nat
  high : Nat
  den : Nat
  closed : Bool

namespace Neighbourhood

/-- The neighbourhood of `significand * 2 ^ exponent`. Below a power of two the doubles lie closer
together, so that the lower half of the neighbourhood is half as wide there. -/
def of (significand : Nat) (exponent : Int) : Neighbourhood :=
  let narrow := significand == Nat.pow 2 52 && decide (Binary64.leastExponent < exponent)
  let unit := Nat.pow 2 (exponent - 2).toNat
  { low := (4 * significand - if narrow then 1 else 2) * unit
    value := 4 * significand * unit
    high := (4 * significand + 2) * unit
    den := Nat.pow 2 (2 - exponent).toNat
    closed := significand % 2 == 0 }

def contains (n : Neighbourhood) (d : Decimal) : Bool :=
  let scale := Nat.pow 10 (-d.exponent).toNat
  let x := d.digits * Nat.pow 10 d.exponent.toNat * n.den
  if n.closed then n.low * scale ≤ x && x ≤ n.high * scale
  else n.low * scale < x && x < n.high * scale

/-- The decimal with the given exponent that is nearest to the value and in the neighbourhood, if
there is one. -/
def nearest? (n : Neighbourhood) (tie : Tie) (exponent : Int) : Option Decimal :=
  let num := n.value * Nat.pow 10 (-exponent).toNat
  let den := n.den * Nat.pow 10 exponent.toNat
  let below : Decimal := ⟨num / den, exponent⟩
  let above : Decimal := ⟨num / den + 1, exponent⟩
  let isAboveNearer :=
    match compare (2 * (num % den)) den with
    | .lt => false
    | .gt => true
    | .eq => tie == .greater || below.digits % 2 == 1
  if n.contains below then
    if n.contains above && isAboveNearer then some above else some below
  else if n.contains above then some above
  else none

/-- The shortest decimal in the neighbourhood. Seventeen digits always suffice. -/
def shortest (n : Neighbourhood) (tie : Tie) : Decimal :=
  let lead := leadingExponent n.value n.den
  let found := (List.range 17).findSome? fun (k : Nat) => n.nearest? tie (lead - k)
  found.getD ⟨n.value / n.den, 0⟩

end Neighbourhood

namespace Binary64

/-- The shortest decimal that is read as the double with the given parts. -/
def shortest (significand : Nat) (exponent : Int) (tie : Tie) : Decimal :=
  if significand = 0 then ⟨0, 0⟩
  else ((Neighbourhood.of significand exponent).shortest tie).trim 20

def display (style : Style) : Binary64 → String
  | finite negative significand exponent =>
    String.ofList ((if negative then ['-'] else []) ++
      style.display (shortest significand exponent style.tie))
  | infinite negative => if negative then "-inf" else "inf"
  | nan => "NaN"

end Binary64

end LinkGate.Number
