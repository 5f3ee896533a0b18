import LinkGate.Json.Value

/-!
The members of an object by name: in ascending order of names, each name once, with the value that
came last in the text.
-/

namespace LinkGate.Json

/-- Puts a member into a list of members in ascending order of names, in place of the member that
has its name. -/
def putMember (name : String) (value : Json) : List (String × Json) → List (String × Json)
  | [] => [(name, value)]
  | (other, kept) :: rest =>
    if name < other then (name, value) :: (other, kept) :: rest
    else if name = other then (name, value) :: rest
    else (other, kept) :: putMember name value rest

/-- The members in ascending order of names, the last of each name. -/
def byName (members : List (String × Json)) : List (String × Json) :=
  members.foldl (fun sorted m => putMember m.1 m.2 sorted) []

end LinkGate.Json
