import LinkGate.Json.Numeral
import LinkGate.Text.Quoted

/-!
What a reader of JSON says of a value of the wrong type: the value as it was found, and the type
that was asked for.
-/

namespace LinkGate.Json

/-- What a reader of JSON may ask for. -/
inductive Expected
  | string
  | sequence
  | map
  deriving DecidableEq, Repr

namespace Expected

def name : Expected → String
  | string => "string"
  | sequence => "sequence"
  | map => "map"

end Expected

/-- A value of a type that was not asked for. -/
structure Mismatch where
  found : Json
  expected : Expected

def describe : Json → String
  | null => "null"
  | boolean b => "boolean `" ++ (if b then "true" else "false") ++ "`"
  | number (.integer i) => "integer `" ++ toString i ++ "`"
  | number (.real x) => "floating point `" ++ x.display Numeral.style ++ "`"
  | string s => "string " ++ Text.quoted s
  | array _ => "sequence"
  | object _ => "map"

def Mismatch.message (m : Mismatch) : String :=
  "invalid type: " ++ describe m.found ++ ", expected a " ++ m.expected.name

end LinkGate.Json
