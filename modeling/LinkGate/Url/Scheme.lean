/-!
The scheme of a URL. The first of the delimiters `:`, `/`, `?` and `#` decides: a colon ends a
scheme, and after any other, or where there is none, the URL is relative.
-/

namespace LinkGate.Url

/-- Whether `c` is one of the characters of which the first in a URL decides about its scheme. -/
def isDelimiter (c : Char) : Bool :=
  c == ':' || c == '/' || c == '?' || c == '#'

def head (s : List Char) : List Char :=
  s.takeWhile (!isDelimiter ·)

def afterHead (s : List Char) : List Char :=
  s.dropWhile (!isDelimiter ·)

/-- The scheme, which is the text before the first delimiter if that delimiter is a colon. -/
def scheme? (s : List Char) : Option (List Char) :=
  match afterHead s with
  | ':' :: _ => some (head s)
  | _ => none

theorem head_append_afterHead (s : List Char) : head s ++ afterHead s = s :=
  List.takeWhile_append_dropWhile

/-- The schemes that a link may have. -/
def allowedSchemes : List (List Char) :=
  ["http".toList, "https".toList, "mailto".toList, "ftp".toList]

/-- The scheme of URLs that hold their own content. -/
def dataScheme : List Char := "data".toList

end LinkGate.Url
