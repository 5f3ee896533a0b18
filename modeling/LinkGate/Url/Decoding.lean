import LinkGate.Json.Members
import LinkGate.Json.Mismatch
import LinkGate.Url.Sanitized

/-!
Sanitized URLs read from JSON. A string is never trusted: it is sanitized when it is read. A value
of the wrong type is refused with the first such value, in the order of the items of a list or of
the names of a map.
-/

namespace LinkGate.SanitizedUrl

def ofJson : Json → Except Json.Mismatch SanitizedUrl
  | .string s => .ok (Url.sanitize s)
  | j => .error ⟨j, .string⟩

/-- Reads a URL that may be missing, which `null` stands for. -/
def optionOfJson : Json → Except Json.Mismatch (Option SanitizedUrl)
  | .null => .ok none
  | j => (ofJson j).map some

def ofItems : List Json → Except Json.Mismatch (List SanitizedUrl)
  | [] => .ok []
  | j :: rest =>
    match ofJson j with
    | .error m => .error m
    | .ok u => (ofItems rest).map (u :: ·)

def listOfJson : Json → Except Json.Mismatch (List SanitizedUrl)
  | .array items => ofItems items
  | j => .error ⟨j, .sequence⟩

/-- Reads the URLs of named members up to the first mismatch. -/
def ofMembers : List (String × Json) → Except Json.Mismatch (List (String × SanitizedUrl))
  | [] => .ok []
  | (name, j) :: rest =>
    match ofJson j with
    | .error m => .error m
    | .ok u => (ofMembers rest).map ((name, u) :: ·)

/-- Reads a map from names to URLs, in ascending order of names. -/
def mapOfJson : Json → Except Json.Mismatch (List (String × SanitizedUrl))
  | .object members => ofMembers (Json.byName members)
  | j => .error ⟨j, .map⟩

def toJson (u : SanitizedUrl) : Json := .string u.value

def optionToJson : Option SanitizedUrl → Json
  | none => .null
  | some u => u.toJson

def listToJson (urls : List SanitizedUrl) : Json := .array (urls.map toJson)

def mapToJson (urls : List (String × SanitizedUrl)) : Json :=
  .object (urls.map fun (name, u) => (name, u.toJson))

end LinkGate.SanitizedUrl
