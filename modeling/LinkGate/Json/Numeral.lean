import LinkGate.Json.Value
import LinkGate.Number.Digits
import LinkGate.Number.Shortest

/-!
Numbers in JSON: their values and their texts. A number without fraction and exponent that fits in
64 bits is exact. Any other is a double, which is found in two steps: the digits that fit in 64 bits
are rounded to a double, and that is multiplied or divided by a power of ten. So it may differ by a
little from the double that is nearest to the text.
-/

namespace LinkGate.Json

open Number (Binary64)

/-- The first number that does not fit in 64 bits. -/
def wordSize : Nat := Nat.pow 2 64

/-- Adds digits to `n` as long as it fits in 64 bits, and gives the number with the digits that are
left over. -/
def addDigits (n : Nat) : List Char → Nat × List Char
  | [] => (n, [])
  | c :: r =>
    let m := 10 * n + Number.digitValue c
    if m < wordSize then addDigits m r else (n, c :: r)

/-- The greatest power of ten that is a double. -/
def greatestPower : Nat := 308

/-- A double times a power of ten. Division is by the greatest power first if one does not suffice,
and two divisions by it leave nothing of a number of 64 bits. -/
def scale (x : Binary64) (exponent : Int) : Binary64 :=
  let n := exponent.natAbs
  if x.isZero then x
  else if 0 ≤ exponent then
    if n ≤ greatestPower then x * .tenToThe n else .infinite false
  else if n ≤ greatestPower then x / .tenToThe n
  else if n ≤ 2 * greatestPower then
    x / .tenToThe greatestPower / .tenToThe (n - greatestPower)
  else .zero false

/-- The double for the digits of a number. Digits before the point that do not fit in 64 bits count
as zeros, and those after it are passed over. The result is none if it is not finite. -/
def ofDigits? (whole fraction : List Char) (exponent : Int) : Option Binary64 :=
  let (n, restOfWhole) := addDigits 0 whole
  let (n, restOfFraction) := addDigits n fraction
  let kept := fraction.length - restOfFraction.length
  let x := scale (.ofRatio false n 1) (exponent + restOfWhole.length - kept)
  if x.isFinite then some x else none

namespace Numeral

/-- The number with the given parts. The negative zero is a double. A number that is too great for
doubles is none. -/
def ofParts? (negative : Bool) (whole : List Char) (fraction : Option (List Char))
    (exponent : Option Int) : Option Numeral :=
  let rounded := (ofDigits? whole (fraction.getD []) (exponent.getD 0)).map fun x =>
    real (if negative then x.negate else x)
  match fraction, exponent with
  | none, none =>
    let n := Number.ofDigits 10 whole
    if negative then
      if 0 < n ∧ 2 * n ≤ wordSize then some (integer (-(n : Int))) else rounded
    else if n < wordSize then some (integer n) else rounded
  | _, _ => rounded

/-- Doubles are written in full if their first digit stands between the fifth place after the point
and the sixteenth before it. -/
def style : Number.Style := ⟨.even, some (-5, 15)⟩

def text : Numeral → String
  | integer i => toString i
  | real x => x.display style

end Numeral

end LinkGate.Json
