import LinkGate.Pattern.Reader
import LinkGate.Text.Ascii

/-!
What a directive may ask of the fields of an event: that there is one of a certain name, and that
its value is a certain number or matches a pattern.
-/

namespace LinkGate.Log

/-- What a directive asks of the fields of an event. -/
structure FieldTest where
  name : String
  /-- Whether the field has to have a certain value. -/
  hasValue : Bool
  deriving DecidableEq, Repr

namespace FieldTest

/-- The text without a sign at its front. -/
def unsigned : List Char → List Char
  | '+' :: r | '-' :: r => r
  | s => s

def isDigits (s : List Char) : Bool := !s.isEmpty && s.all Char.isDigit

/-- Whether a text is nothing, or the exponent of a number. -/
def isExponent : List Char → Bool
  | [] => true
  | c :: r => (c = 'e' || c = 'E') && isDigits (unsigned r)

/-- Whether a text is a number without a sign. Digits have to stand before or after the point. -/
def isUnsignedNumber (s : List Char) : Bool :=
  let whole := s.takeWhile Char.isDigit
  match s.dropWhile Char.isDigit with
  | '.' :: r =>
    isDigits (whole ++ r.takeWhile Char.isDigit) && isExponent (r.dropWhile Char.isDigit)
  | r => isDigits whole && isExponent r

def numberNames : List String := ["inf", "infinity", "nan"]

def isNumber (s : List Char) : Bool :=
  isUnsignedNumber (unsigned s) || numberNames.contains (String.ofList (Text.lower (unsigned s)))

/-- The test that a text stands for: a name, after which an equals sign and a value may follow. The
value ends at the next equals sign, and is a number or a pattern. -/
def ofText? (text : List Char) : Option FieldTest :=
  let isNameChar (c : Char) : Bool := c ≠ '='
  let name := String.ofList (text.takeWhile isNameChar)
  match text.dropWhile isNameChar with
  | [] => some ⟨name, false⟩
  | _ :: r =>
    let value := r.takeWhile isNameChar
    if isNumber value || Pattern.isPattern value then some ⟨name, true⟩ else none

end FieldTest

end LinkGate.Log
