import LinkGate.Url.Decoding

/-!
# URLs read from JSON

A list is read item by item, and a map reads the values of its members as a list reads its items
(`ofMembers_eq_ofItems`). So one induction on the items tells what either reader gives.

The four shapes a JSON value may hold URLs in are put under one roof here: `Shape.ofJson` is the
reader of a shape and `Shape.texts` are the strings that stand where the shape has its URLs.
Whatever the shape, what is read are these strings, each sanitized (`Shape.values_eq_of_ofJson`).
-/

namespace LinkGate

variable {j : Json} {items : List Json} {members : List (String × Json)} {u : SanitizedUrl}
  {urls : List SanitizedUrl}

namespace SanitizedUrl

/-! ## Single URLs, lists and maps -/

theorem map_eq_ok_iff {ε α β : Type} {f : α → β} {x : Except ε α} {b : β} :
    x.map f = .ok b ↔ ∃ a, x = .ok a ∧ f a = b := by
  cases x with
  | error e => simp [Except.map]
  | ok a => simp [Except.map]

/-- One URL is read from a string, which is sanitized. -/
theorem ofJson_eq_ok_iff : ofJson j = .ok u ↔ ∃ s, j = .string s ∧ Url.sanitize s = u := by
  cases j <;> simp [ofJson]

/-- URLs are read from strings, each of which is sanitized. -/
theorem ofItems_eq_ok_iff :
    ofItems items = .ok urls ↔
      ∃ texts : List String, items = texts.map Json.string ∧ texts.map Url.sanitize = urls := by
  induction items generalizing urls with
  | nil =>
    refine ⟨fun h => ⟨[], rfl, ?_⟩, fun h => ?_⟩
    · cases h
      rfl
    · obtain ⟨texts, hitems, hurls⟩ := h
      rw [List.map_eq_nil_iff.mp hitems.symm] at hurls
      rw [← hurls]
      rfl
  | cons j rest ih =>
    refine ⟨fun h => ?_, fun h => ?_⟩
    · unfold ofItems at h
      cases hj : ofJson j with
      | error e =>
        rw [hj] at h
        cases h
      | ok u =>
        rw [hj] at h
        obtain ⟨us, hrest, hus⟩ := map_eq_ok_iff.mp h
        obtain ⟨s, hs, hu⟩ := ofJson_eq_ok_iff.mp hj
        obtain ⟨texts, htexts, hsan⟩ := ih.mp hrest
        exact ⟨s :: texts, by rw [hs, htexts, List.map_cons], by
          rw [List.map_cons, hu, hsan, hus]⟩
    · obtain ⟨texts, hitems, hurls⟩ := h
      obtain ⟨s, texts, rfl, rfl, hrest⟩ := List.map_eq_cons_iff.mp hitems.symm
      have hread : ofItems rest = .ok (texts.map Url.sanitize) := ih.mpr ⟨texts, hrest.symm, rfl⟩
      unfold ofItems
      rw [ofJson, hread, ← hurls]
      rfl

/-- A map reads the values of its members as a list reads its items, and keeps the names. -/
theorem ofMembers_eq_ofItems :
    ofMembers members =
      (ofItems (members.map (·.2))).map fun urls => (members.map (·.1)).zip urls := by
  induction members with
  | nil => rfl
  | cons m rest ih =>
    obtain ⟨name, j⟩ := m
    simp only [ofMembers, List.map_cons, ofItems]
    cases ofJson j with
    | error e => rfl
    | ok u =>
      rw [ih]
      cases ofItems (rest.map (·.2)) with
      | error e => rfl
      | ok us => rfl

/-- The URLs of a map that was read are its members' strings, each sanitized. -/
theorem map_snd_of_ofMembers {named : List (String × SanitizedUrl)}
    (h : ofMembers members = .ok named) :
    ∃ texts : List String, members.map (·.2) = texts.map Json.string ∧
      named.map (·.2) = texts.map Url.sanitize := by
  rw [ofMembers_eq_ofItems] at h
  obtain ⟨us, hread, hnamed⟩ := map_eq_ok_iff.mp h
  obtain ⟨texts, htexts, hus⟩ := ofItems_eq_ok_iff.mp hread
  refine ⟨texts, htexts, ?_⟩
  -- no name and no URL is lost, because there are as many of either as there are members
  have hlength : us.length ≤ (members.map (·.1)).length := by
    have hsame := congrArg List.length htexts
    rw [List.length_map, List.length_map] at hsame
    rw [← hus, List.length_map, List.length_map]
    exact Nat.le_of_eq hsame.symm
  rw [← hnamed, List.map_snd_zip hlength, hus]

end SanitizedUrl

/-! ## Shapes -/

/-- Values in one of the four shapes that JSON may hold URLs in. -/
inductive Shaped (α : Type)
  | one (a : α)
  | option (a : Option α)
  | list (as : List α)
  | map (as : List (String × α))

def Shaped.values {α : Type} : Shaped α → List α
  | one a => [a]
  | option a => a.toList
  | list as => as
  | map as => as.map (·.2)

def Shaped.toJson : Shaped SanitizedUrl → Json
  | one u => u.toJson
  | option u => SanitizedUrl.optionToJson u
  | list urls => SanitizedUrl.listToJson urls
  | map urls => SanitizedUrl.mapToJson urls

inductive Shape
  | one
  | option
  | list
  | map
  deriving DecidableEq, Repr

namespace Shape

def ofJson : Shape → Json → Except Json.Mismatch (Shaped SanitizedUrl)
  | one, j => (SanitizedUrl.ofJson j).map .one
  | option, j => (SanitizedUrl.optionOfJson j).map .option
  | list, j => (SanitizedUrl.listOfJson j).map .list
  | map, j => (SanitizedUrl.mapOfJson j).map .map

/-- The strings that stand where the shape has its URLs, in the order they are read in. -/
def texts : Shape → Json → List String
  | one, j => j.string?.toList
  | option, j => j.string?.toList
  | list, .array items => items.filterMap Json.string?
  | list, _ => []
  | map, .object members => (Json.byName members).filterMap fun m => m.2.string?
  | map, _ => []

theorem filterMap_string?_map (strings : List String) :
    (strings.map Json.string).filterMap Json.string? = strings := by
  rw [List.filterMap_map]
  exact List.filterMap_some

/-- Where there may be a URL, the string there is sanitized. -/
theorem values_eq_of_optionOfJson {u? : Option SanitizedUrl}
    (h : SanitizedUrl.optionOfJson j = .ok u?) :
    u?.toList = (j.string?.toList).map Url.sanitize := by
  unfold SanitizedUrl.optionOfJson at h
  split at h
  · cases h
    rfl
  · obtain ⟨u, hread, hu⟩ := SanitizedUrl.map_eq_ok_iff.mp h
    obtain ⟨s, hj, hs⟩ := SanitizedUrl.ofJson_eq_ok_iff.mp hread
    rw [hj, ← hu, ← hs]
    rfl

/-- So are all strings of a list. -/
theorem values_eq_of_listOfJson (h : SanitizedUrl.listOfJson j = .ok urls) :
    urls = (texts .list j).map Url.sanitize := by
  cases j with
  | array items =>
    obtain ⟨strings, hitems, hurls⟩ := SanitizedUrl.ofItems_eq_ok_iff.mp h
    rw [texts, hitems, filterMap_string?_map, hurls]
  | _ => cases h

/-- So are all strings of a map, in the order of their names. -/
theorem values_eq_of_mapOfJson {named : List (String × SanitizedUrl)}
    (h : SanitizedUrl.mapOfJson j = .ok named) :
    named.map (·.2) = (texts .map j).map Url.sanitize := by
  cases j with
  | object members =>
    obtain ⟨strings, hvalues, hnamed⟩ := SanitizedUrl.map_snd_of_ofMembers h
    have htexts : texts .map (.object members) = strings := by
      rw [texts, ← filterMap_string?_map strings, ← hvalues, List.filterMap_map]
      rfl
    rw [htexts, hnamed]
  | _ => cases h

/-- Whatever the shape, the URLs that are read are the strings that stand there, each
sanitized. -/
theorem values_eq_of_ofJson {shape : Shape} {x : Shaped SanitizedUrl}
    (h : shape.ofJson j = .ok x) : x.values = (shape.texts j).map Url.sanitize := by
  cases shape with
  | one =>
    obtain ⟨u, hread, hx⟩ := SanitizedUrl.map_eq_ok_iff.mp h
    obtain ⟨s, hj, hs⟩ := SanitizedUrl.ofJson_eq_ok_iff.mp hread
    rw [← hx, hj, ← hs]
    rfl
  | option =>
    obtain ⟨u, hread, hx⟩ := SanitizedUrl.map_eq_ok_iff.mp h
    rw [← hx]
    exact values_eq_of_optionOfJson hread
  | list =>
    obtain ⟨urls, hread, hx⟩ := SanitizedUrl.map_eq_ok_iff.mp h
    rw [← hx]
    exact values_eq_of_listOfJson hread
  | map =>
    obtain ⟨named, hread, hx⟩ := SanitizedUrl.map_eq_ok_iff.mp h
    rw [← hx]
    exact values_eq_of_mapOfJson hread

end Shape

end LinkGate
