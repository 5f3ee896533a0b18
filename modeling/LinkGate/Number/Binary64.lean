/-!
Double-precision numbers, kept by their exact value: a significand of at most 53 bits times a power
of two. A number written in decimal is rounded to the nearest double, a tie going to the even
significand, and so are products and quotients.
-/

namespace LinkGate.Number

inductive Binary64
  /-- The number `significand * 2 ^ exponent`, or its negative. -/
  | finite (negative : Bool) (significand : Nat) (exponent : Int)
  | infinite (negative : Bool)
  | nan
  deriving DecidableEq, Repr

/-- `num / den` rounded to a natural number, a half going to the even neighbour. -/
def roundHalfEven (num den : Nat) : Nat :=
  let q := num / den
  let r := num % den
  if 2 * r < den then q
  else if den < 2 * r then q + 1
  else if q % 2 = 0 then q else q + 1

/-- Numerator and denominator of `num / (den * 2 ^ e)`. -/
def descale (num den : Nat) (e : Int) : Nat × Nat :=
  (num * Nat.pow 2 (-e).toNat, den * Nat.pow 2 e.toNat)

def decimalLength (n : Nat) : Nat :=
  (Nat.toDigits 10 n).length

namespace Binary64

/-- The least exponent of a double. -/
def leastExponent : Int := -1074

/-- The greatest exponent of a double with a significand of 53 bits. -/
def greatestExponent : Int := 971

def zero (negative : Bool) : Binary64 := finite negative 0 leastExponent

/-- The exponent with which `num / den` has a significand of 53 bits, or the least one. -/
def exponentFor (num den : Nat) : Int :=
  let e : Int := (Nat.log2 num : Int) - Nat.log2 den - 52
  let (n, d) := descale num den e
  max leastExponent (if n < d * Nat.pow 2 52 then e - 1 else e)

/-- The double nearest to `num / den`. -/
def ofRatio (negative : Bool) (num den : Nat) : Binary64 :=
  if num = 0 then zero negative
  else
    let e := exponentFor num den
    let (n, d) := descale num den e
    let significand := roundHalfEven n d
    let (significand, e) :=
      if significand = Nat.pow 2 53 then (Nat.pow 2 52, e + 1) else (significand, e)
    if greatestExponent < e then infinite negative else finite negative significand e

/-- The double nearest to `digits * 10 ^ exponent`. Numbers far outside the range of doubles are
settled by their size alone. -/
def ofDecimal (negative : Bool) (digits : Nat) (exponent : Int) : Binary64 :=
  let size : Int := decimalLength digits + exponent
  if digits = 0 ∨ size < -330 then zero negative
  else if 310 < size then infinite negative
  else ofRatio negative (digits * Nat.pow 10 exponent.toNat) (Nat.pow 10 (-exponent).toNat)

def negate : Binary64 → Binary64
  | finite negative significand exponent => finite (!negative) significand exponent
  | infinite negative => infinite (!negative)
  | nan => nan

/-- The product, rounded once. -/
def mul : Binary64 → Binary64 → Binary64
  | finite s m e, finite t n f =>
    ofRatio (s != t) (m * n * Nat.pow 2 (e + f).toNat) (Nat.pow 2 (-(e + f)).toNat)
  | infinite s, infinite t => infinite (s != t)
  | infinite s, finite t n _ | finite t n _, infinite s => if n = 0 then nan else infinite (s != t)
  | nan, _ | _, nan => nan

/-- The quotient, rounded once. -/
def div : Binary64 → Binary64 → Binary64
  | finite s m e, finite t n f =>
    if n = 0 then if m = 0 then nan else infinite (s != t)
    else ofRatio (s != t) (m * Nat.pow 2 (e - f).toNat) (n * Nat.pow 2 (f - e).toNat)
  | infinite s, finite t _ _ => infinite (s != t)
  | finite s _ _, infinite t => zero (s != t)
  | infinite _, infinite _ | nan, _ | _, nan => nan

instance : Mul Binary64 := ⟨mul⟩

instance : Div Binary64 := ⟨div⟩

def tenToThe (n : Nat) : Binary64 :=
  ofRatio false (Nat.pow 10 n) 1

def isZero : Binary64 → Bool
  | finite _ significand _ => significand == 0
  | _ => false

/-- Whether the double is neither infinite nor NaN. -/
def isFinite : Binary64 → Bool
  | finite .. => true
  | _ => false

end Binary64

end LinkGate.Number
