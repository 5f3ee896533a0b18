/-!
Text inside a quoted HTML attribute. Five characters are written as character references, so that
no text ends the attribute or starts a reference of its own; a reader that undoes these five
references gets the text back.
-/

namespace LinkGate.Html

/-- The reference that stands for `c` in an attribute, if `c` may not stand for itself. -/
def reference? (c : Char) : Option (List Char) :=
  if c = '&' then some "&amp;".toList
  else if c = '<' then some "&lt;".toList
  else if c = '>' then some "&gt;".toList
  else if c = '"' then some "&quot;".toList
  else if c = '\'' then some "&#x27;".toList
  else none

/-- The text that stands for `c` in an attribute. -/
def escapeChar (c : Char) : List Char :=
  (reference? c).getD [c]

/-- The text that stands for `s` in an attribute. -/
def escape (s : List Char) : List Char :=
  s.flatMap escapeChar

@[simp] theorem escape_append (s t : List Char) : escape (s ++ t) = escape s ++ escape t := by
  simp [escape]

def special : List Char := ['&', '<', '>', '"', '\'']

/-- The character that a reference at the start of `s` stands for, and what follows it. -/
def readReference? (s : List Char) : Option (Char × List Char) :=
  special.findSome? fun c => ((escapeChar c).isPrefixOf? s).map (c, ·)

/-- Undoes the references from left to right, where `skip` characters belong to a reference that
has been undone. All else is kept. -/
def decodeFrom (skip : Nat) : List Char → List Char
  | [] => []
  | c :: r =>
    match skip with
    | n + 1 => decodeFrom n r
    | 0 =>
      match readReference? (c :: r) with
      | some (d, rest) => d :: decodeFrom (r.length - rest.length) r
      | none => c :: decodeFrom 0 r

/-- Undoes the five references from left to right. -/
def decode (s : List Char) : List Char :=
  decodeFrom 0 s

/-- The text with the five characters replaced, or `none` if it holds none of them. -/
def escaped? (text : String) : Option String :=
  if text.toList.any (special.contains ·) then some (String.ofList (escape text.toList)) else none

/-- The text as it is written inside a quoted attribute. -/
def escapeAttribute (text : String) : String :=
  (escaped? text).getD text

def hrefAttribute (value : String) : String :=
  "href=\"" ++ escapeAttribute value ++ "\""

end LinkGate.Html
