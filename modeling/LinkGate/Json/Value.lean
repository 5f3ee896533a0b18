import LinkGate.Number.Binary64

/-!
JSON values. Whole numbers and numbers with a fraction or an exponent are kept apart, as they are
in the text. The members of an object stand in the order of the text, and a name may occur more
than once.
-/

namespace LinkGate

inductive Json.Numeral
  /-- A number without fraction and exponent that fits in 64 bits. -/
  | integer (value : Int)
  /-- Any other number, rounded to a double. -/
  | real (value : Number.Binary64)
  deriving DecidableEq, Repr

inductive Json
  | null
  | boolean (value : Bool)
  | number (value : Json.Numeral)
  | string (value : String)
  | array (items : List Json)
  | object (members : List (String × Json))

namespace Json

/-- The value of the last member with the given name. -/
def member? (name : String) : Json → Option Json
  | object members => (members.reverse.find? (·.1 == name)).map (·.2)
  | _ => none

def string? : Json → Option String
  | string s => some s
  | _ => none

end Json

end LinkGate
