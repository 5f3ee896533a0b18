/-!
Data URLs whose content is in base64 and whose media type has no parameters:
`data:` media type `;base64,` payload padding. The media type holds no semicolon and no comma, the
payload has at least one digit, and the padding is a run of equals signs.
-/

namespace LinkGate.Url

/-- The parts of a base64 data URL in lower case. -/
structure DataUrl where
  mediaType : List Char
  payload : List Char
  padding : List Char
  deriving DecidableEq

namespace DataUrl

/-- The text that opens every data URL. -/
def opening : List Char := "data:".toList

/-- The text between the media type and the payload. -/
def separator : List Char := ";base64,".toList

def isTypeChar (c : Char) : Bool := c != ';' && c != ','

/-- Whether `c` is a base64 digit in lower case. -/
def isDigit (c : Char) : Bool := c.isLower || c.isDigit || c == '+' || c == '/'

def isPadding (c : Char) : Bool := c == '='

/-- Whether the parts are such as a data URL can have. -/
def WellFormed (d : DataUrl) : Prop :=
  (∀ c ∈ d.mediaType, isTypeChar c) ∧ d.payload ≠ [] ∧ (∀ c ∈ d.payload, isDigit c) ∧
    ∀ c ∈ d.padding, isPadding c

instance (d : DataUrl) : Decidable d.WellFormed :=
  decidable_of_decidable_of_iff (p := (d.mediaType.all isTypeChar && !d.payload.isEmpty &&
    d.payload.all isDigit && d.padding.all isPadding) = true) (by simp [WellFormed, and_assoc])

def render (d : DataUrl) : List Char :=
  opening ++ d.mediaType ++ separator ++ d.payload ++ d.padding

/-- Reads what follows the separator. -/
def ofContent? (mediaType content : List Char) : Option DataUrl :=
  let payload := content.takeWhile isDigit
  let padding := content.dropWhile isDigit
  if payload.isEmpty || !padding.all isPadding then none else some ⟨mediaType, payload, padding⟩

/-- Reads a URL in lower case as a base64 data URL. -/
def parse? (s : List Char) : Option DataUrl :=
  match opening.isPrefixOf? s with
  | none => none
  | some rest =>
    match separator.isPrefixOf? (rest.dropWhile isTypeChar) with
    | none => none
    | some content => ofContent? (rest.takeWhile isTypeChar) content

end DataUrl

end LinkGate.Url
