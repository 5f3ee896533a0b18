import LinkGate.Proofs.Json.Members
import LinkGate.Proofs.Json.ReadBack
import LinkGate.Proofs.Url.Decoding
import LinkGate.Proofs.Url.Sanitized

/-!
# What is read from JSON, and what is refused

For each shape there is a relation that says what is read from which values (`Reads`), and one that
says which values are refused with which mismatch (`Refuses`). The readers agree with both
(`ofJson_eq_ok_iff`, `ofJson_eq_error_iff`), so a value is read or refused and there is no third.

* **`ofItems_eq_error_iff`**: a list is refused with its first item that is not a string. What
  follows this item is not looked at.
* **`byName_eq_map_iff`**, **`ofMembers_byName_eq_error_iff`**: so is a map, whose first member is
  the one with the least name.
* **`Reads.toJson`**: what is written is read back, because sanitizing a sanitized value changes
  nothing, and this includes the placeholder although it is refused.
-/

namespace LinkGate

variable {j bad : Json} {m : Json.Mismatch} {name : String} {items : List Json}
  {members : List (String × Json)} {texts : List (String × String)}
  {named : List (String × SanitizedUrl)}

namespace Json

def IsString (j : Json) : Prop :=
  ∃ s, j = .string s

theorem isString_string (s : String) : IsString (.string s) := ⟨s, rfl⟩

/-- Items that are all strings are made from texts. -/
theorem exists_map_string (h : ∀ item ∈ items, IsString item) :
    ∃ strings : List String, items = strings.map Json.string := by
  induction items with
  | nil => exact ⟨[], rfl⟩
  | cons item rest ih =>
    obtain ⟨⟨s, rfl⟩, hrest⟩ := List.forall_mem_cons.mp h
    obtain ⟨strings, rfl⟩ := ih hrest
    exact ⟨s :: strings, rfl⟩

theorem isString_of_mem_map {strings : List String} (h : j ∈ strings.map Json.string) :
    IsString j := by
  obtain ⟨s, -, rfl⟩ := List.mem_map.mp h
  exact isString_string s

/-- The members' values are all strings, and these are the strings by name. -/
structure HoldsTexts (members : List (String × Json)) (texts : List (String × String)) : Prop where
  ascending : Ascending texts
  member?_eq_some_iff : ∀ name value, member? name (.object members) = some value ↔
    ∃ s, value = .string s ∧ (name, s) ∈ texts

/-- Sorted by name the members are strings, and these are the ones they hold. -/
theorem byName_eq_map_iff :
    byName members = texts.map (fun t => (t.1, Json.string t.2)) ↔ HoldsTexts members texts := by
  have hmap : ∀ name value, (name, value) ∈ texts.map (fun t => (t.1, Json.string t.2)) ↔
      ∃ s, value = .string s ∧ (name, s) ∈ texts := by
    intro name value
    simp only [List.mem_map, Prod.mk.injEq, Prod.exists]
    constructor
    · rintro ⟨_, s, hmem, rfl, rfl⟩
      exact ⟨s, rfl, hmem⟩
    · rintro ⟨s, rfl, hmem⟩
      exact ⟨name, s, hmem, rfl, rfl⟩
  constructor
  · intro h
    refine ⟨ascending_map.mp (h ▸ ascending_byName members), fun name value => ?_⟩
    rw [← mem_byName_iff, h, hmap]
  · rintro ⟨hascending, hmember⟩
    apply (ascending_byName members).eq_of_mem_iff (ascending_map.mpr hascending)
    rintro ⟨name, value⟩
    rw [mem_byName_iff, hmember, hmap]

/-- `bad` is no string, and the value of the least name of which that is so. -/
structure FirstMismatch (members : List (String × Json)) (name : String) (bad : Json) : Prop where
  found : member? name (.object members) = some bad
  not_string : ¬ IsString bad
  earlier : ∀ other value, other < name → member? other (.object members) = some value →
    IsString value

end Json

open Json (IsString Ascending HoldsTexts FirstMismatch byName)

namespace SanitizedUrl

/-! ## Items -/

theorem map_eq_error_iff {ε α β : Type} {f : α → β} {x : Except ε α} {e : ε} :
    x.map f = .error e ↔ x = .error e := by
  cases x with
  | error e' => exact ⟨fun h => by cases h; rfl, fun h => by cases h; rfl⟩
  | ok a => exact ⟨nofun, nofun⟩

theorem ofJson_eq_error_iff : ofJson j = .error m ↔ ¬ IsString j ∧ m = ⟨j, .string⟩ := by
  cases j with
  | string s => exact ⟨nofun, fun h => absurd (Json.isString_string s) h.1⟩
  | _ =>
    refine ⟨fun h => ?_, fun h => ?_⟩
    · cases h
      refine ⟨?_, rfl⟩
      rintro ⟨s, hs⟩
      cases hs
    · rw [h.2]
      rfl

/-- The first item that is no string decides. -/
theorem ofItems_eq_error_iff : ofItems items = .error m ↔
    ∃ (strings : List String) (bad : Json) (after : List Json),
      items = strings.map Json.string ++ bad :: after ∧ ¬ IsString bad ∧ m = ⟨bad, .string⟩ := by
  induction items with
  | nil =>
    refine ⟨nofun, fun h => ?_⟩
    obtain ⟨strings, bad, after, hitems, -⟩ := h
    simp at hitems
  | cons j rest ih =>
    unfold ofItems
    cases hj : ofJson j with
    | error e =>
      obtain ⟨hbad, rfl⟩ := ofJson_eq_error_iff.mp hj
      constructor
      · intro h
        cases h
        exact ⟨[], j, rest, rfl, hbad, rfl⟩
      · rintro ⟨strings, bad, after, hitems, -, rfl⟩
        cases strings with
        | nil => rw [(List.cons.inj hitems).1]
        | cons s strings => exact absurd ⟨s, (List.cons.inj hitems).1⟩ hbad
    | ok u =>
      obtain ⟨s, rfl, rfl⟩ := SanitizedUrl.ofJson_eq_ok_iff.mp hj
      simp only
      rw [map_eq_error_iff, ih]
      constructor
      · rintro ⟨strings, bad, after, rfl, hbad⟩
        exact ⟨s :: strings, bad, after, rfl, hbad⟩
      · rintro ⟨strings, bad, after, hitems, hbad, hm⟩
        cases strings with
        | nil => exact absurd ⟨s, (List.cons.inj hitems).1.symm⟩ hbad
        | cons s' strings => exact ⟨strings, bad, after, (List.cons.inj hitems).2, hbad, hm⟩

/-! ## Members -/

/-- Members are read if their values are all strings. -/
theorem ofMembers_eq_ok_iff : ofMembers members = .ok named ↔
    ∃ texts : List (String × String), members = texts.map (fun t => (t.1, Json.string t.2)) ∧
      texts.map (fun t => (t.1, Url.sanitize t.2)) = named := by
  rw [ofMembers_eq_ofItems, map_eq_ok_iff]
  constructor
  · rintro ⟨urls, hurls, rfl⟩
    obtain ⟨strings, hvalues, rfl⟩ := ofItems_eq_ok_iff.mp hurls
    have hzip : (members.map (·.1)).zip (members.map (·.2)) = members := by
      rw [List.zip_map']
      exact List.map_id'' (fun _ => rfl) members
    refine ⟨(members.map (·.1)).zip strings, ?_, List.zip_map_right.symm⟩
    calc members
      _ = (members.map (·.1)).zip (strings.map Json.string) := by rw [← hvalues, hzip]
      _ = _ := List.zip_map_right
  · rintro ⟨texts, rfl, rfl⟩
    have hread : ofItems ((texts.map fun t => (t.1, Json.string t.2)).map (·.2))
        = .ok ((texts.map (·.2)).map Url.sanitize) := by
      apply ofItems_eq_ok_iff.mpr
      exact ⟨texts.map (·.2), by rw [List.map_map, List.map_map]; rfl, rfl⟩
    refine ⟨_, hread, ?_⟩
    rw [List.map_map, List.map_map, List.zip_map']
    rfl

/-- A map is read as its strings by name. -/
theorem mapOfJson_eq_ok_iff : mapOfJson (.object members) = .ok named ↔
    ∃ texts, HoldsTexts members texts ∧ texts.map (fun t => (t.1, Url.sanitize t.2)) = named := by
  show ofMembers (byName members) = _ ↔ _
  rw [ofMembers_eq_ok_iff]
  simp only [Json.byName_eq_map_iff]

/-- The first name whose value is no string decides. -/
theorem ofMembers_byName_eq_error_iff : ofMembers (byName members) = .error m ↔
    ∃ name bad, FirstMismatch members name bad ∧ m = ⟨bad, .string⟩ := by
  rw [ofMembers_eq_ofItems, map_eq_error_iff, ofItems_eq_error_iff]
  have hascending := Json.ascending_byName members
  constructor
  · rintro ⟨strings, bad, after, hvalues, hbad, rfl⟩
    obtain ⟨before, rest, hbyName, hbefore, hrest⟩ := List.map_eq_append_iff.mp hvalues
    obtain ⟨⟨name, _⟩, after, rfl, rfl, -⟩ := List.map_eq_cons_iff.mp hrest
    rw [hbyName] at hascending
    refine ⟨name, _, ⟨?_, hbad, ?_⟩, rfl⟩
    · rw [← Json.mem_byName_iff, hbyName]
      exact List.mem_append_right _ List.mem_cons_self
    · intro other value hless hvalue
      rw [← Json.mem_byName_iff, hbyName] at hvalue
      -- a lesser name stands before, where all values are strings
      have hmem : (other, value) ∈ before := hascending.mem_before_iff.mpr ⟨hvalue, hless⟩
      apply Json.isString_of_mem_map
      rw [← hbefore]
      exact List.mem_map.mpr ⟨_, hmem, rfl⟩
  · rintro ⟨name, bad, ⟨hfound, hbad, hearlier⟩, rfl⟩
    obtain ⟨before, after, hbyName⟩ := List.append_of_mem (Json.mem_byName_iff.mpr hfound)
    rw [hbyName] at hascending
    have hstrings : ∀ value ∈ before.map (·.2), IsString value := by
      rw [List.forall_mem_map]
      intro member hmem
      obtain ⟨hmember, hless⟩ := hascending.mem_before_iff.mp hmem
      rw [← hbyName] at hmember
      exact hearlier member.1 member.2 hless (Json.mem_byName_iff.mp hmember)
    obtain ⟨strings, hbefore⟩ := Json.exists_map_string hstrings
    refine ⟨strings, bad, after.map (·.2), ?_, hbad, rfl⟩
    rw [hbyName, List.map_append, List.map_cons, hbefore]

end SanitizedUrl

/-! ## Shapes -/

namespace Shape

def Accepts : Shape → Json → Prop
  | one, j => IsString j
  | option, j => j = .null ∨ IsString j
  | list, j => ∃ items, j = .array items ∧ ∀ item ∈ items, IsString item
  | map, j => ∃ members, j = .object members ∧
    ∀ name value, Json.member? name j = some value → IsString value

/-- What is read. Every string is sanitized, and nothing is left out. -/
inductive Reads : Shape → Json → Shaped SanitizedUrl → Prop
  | one (s : String) : Reads .one (.string s) (.one (Url.sanitize s))
  | null : Reads .option .null (.option none)
  | option (s : String) : Reads .option (.string s) (.option (some (Url.sanitize s)))
  | list (strings : List String) :
    Reads .list (.array (strings.map .string)) (.list (strings.map Url.sanitize))
  | map {members : List (String × Json)} {texts : List (String × String)}
    (h : HoldsTexts members texts) :
    Reads .map (.object members) (.map (texts.map fun t => (t.1, Url.sanitize t.2)))

/-- What is refused, and what is said of it. -/
inductive Refuses : Shape → Json → Json.Mismatch → Prop
  | one {j : Json} (h : ¬ IsString j) : Refuses .one j ⟨j, .string⟩
  | option {j : Json} (hnull : j ≠ .null) (h : ¬ IsString j) : Refuses .option j ⟨j, .string⟩
  | noArray {j : Json} (h : ∀ items, j ≠ .array items) : Refuses .list j ⟨j, .sequence⟩
  | item {bad : Json} (strings : List String) (h : ¬ IsString bad) (after : List Json) :
    Refuses .list (.array (strings.map .string ++ bad :: after)) ⟨bad, .string⟩
  | noObject {j : Json} (h : ∀ members, j ≠ .object members) : Refuses .map j ⟨j, .map⟩
  | member {members : List (String × Json)} {name : String} {bad : Json}
    (h : FirstMismatch members name bad) : Refuses .map (.object members) ⟨bad, .string⟩

variable {shape : Shape} {x : Shaped SanitizedUrl}

/-- What is read is accepted. -/
theorem Reads.accepts (h : Reads shape j x) : shape.Accepts j := by
  cases h with
  | one s => exact Json.isString_string s
  | null => exact .inl rfl
  | option s => exact .inr (Json.isString_string s)
  | list strings => exact ⟨_, rfl, fun _ => Json.isString_of_mem_map⟩
  | @map members texts h =>
    refine ⟨members, rfl, fun name value hvalue => ?_⟩
    obtain ⟨s, hs, -⟩ := (h.member?_eq_some_iff name value).mp hvalue
    exact ⟨s, hs⟩

/-- What is refused is not. -/
theorem Refuses.not_accepts (h : Refuses shape j m) : ¬ shape.Accepts j := by
  cases h with
  | one h => exact h
  | option hnull h => exact fun haccepts => haccepts.elim hnull h
  | noArray h => exact fun ⟨items, hj, _⟩ => h items hj
  | item strings h after =>
    rintro ⟨items, hj, hitems⟩
    cases hj
    exact h (hitems _ (by simp))
  | noObject h => exact fun ⟨members, hj, _⟩ => h members hj
  | member h => exact fun ⟨_, _, hvalues⟩ => h.not_string (hvalues _ _ h.found)

/-- The reader gives what is read. -/
theorem Reads.ofJson_eq (h : Reads shape j x) : shape.ofJson j = .ok x := by
  cases h with
  | one s => rfl
  | null => rfl
  | option s => rfl
  | list strings =>
    have hread : SanitizedUrl.listOfJson (.array (strings.map Json.string))
        = .ok (strings.map Url.sanitize) :=
      SanitizedUrl.ofItems_eq_ok_iff.mpr ⟨strings, rfl, rfl⟩
    exact SanitizedUrl.map_eq_ok_iff.mpr ⟨_, hread, rfl⟩
  | map h =>
    have hread := SanitizedUrl.mapOfJson_eq_ok_iff.mpr ⟨_, h, rfl⟩
    exact SanitizedUrl.map_eq_ok_iff.mpr ⟨_, hread, rfl⟩

/-- It gives nothing else. One case for each shape. -/
theorem reads_of_ofJson (h : shape.ofJson j = .ok x) : Reads shape j x := by
  cases shape with
  | one =>
    obtain ⟨u, hread, rfl⟩ := SanitizedUrl.map_eq_ok_iff.mp h
    obtain ⟨s, rfl, rfl⟩ := SanitizedUrl.ofJson_eq_ok_iff.mp hread
    exact .one s
  | option =>
    obtain ⟨u?, hread, rfl⟩ := SanitizedUrl.map_eq_ok_iff.mp h
    unfold SanitizedUrl.optionOfJson at hread
    split at hread
    · cases hread
      exact .null
    · obtain ⟨u, hone, rfl⟩ := SanitizedUrl.map_eq_ok_iff.mp hread
      obtain ⟨s, rfl, rfl⟩ := SanitizedUrl.ofJson_eq_ok_iff.mp hone
      exact .option s
  | list =>
    obtain ⟨urls, hread, rfl⟩ := SanitizedUrl.map_eq_ok_iff.mp h
    cases j with
    | array items =>
      obtain ⟨strings, rfl, rfl⟩ := SanitizedUrl.ofItems_eq_ok_iff.mp hread
      exact .list strings
    | _ => cases hread
  | map =>
    obtain ⟨named, hread, rfl⟩ := SanitizedUrl.map_eq_ok_iff.mp h
    cases j with
    | object members =>
      obtain ⟨texts, htexts, rfl⟩ := SanitizedUrl.mapOfJson_eq_ok_iff.mp hread
      exact .map htexts
    | _ => cases hread

theorem ofJson_eq_ok_iff : shape.ofJson j = .ok x ↔ Reads shape j x :=
  ⟨reads_of_ofJson, Reads.ofJson_eq⟩

/-- The reader fails with what is said of the value. -/
theorem Refuses.ofJson_eq (h : Refuses shape j m) : shape.ofJson j = .error m := by
  cases h with
  | one h =>
    apply SanitizedUrl.map_eq_error_iff.mpr
    exact SanitizedUrl.ofJson_eq_error_iff.mpr ⟨h, rfl⟩
  | option hnull h =>
    apply SanitizedUrl.map_eq_error_iff.mpr
    unfold SanitizedUrl.optionOfJson
    split
    · exact absurd rfl hnull
    · rw [SanitizedUrl.map_eq_error_iff]
      exact SanitizedUrl.ofJson_eq_error_iff.mpr ⟨h, rfl⟩
  | noArray h =>
    cases j with
    | array items => exact absurd rfl (h items)
    | _ => rfl
  | item strings h after =>
    apply SanitizedUrl.map_eq_error_iff.mpr
    exact SanitizedUrl.ofItems_eq_error_iff.mpr ⟨strings, _, after, rfl, h, rfl⟩
  | noObject h =>
    cases j with
    | object members => exact absurd rfl (h members)
    | _ => rfl
  | member h =>
    apply SanitizedUrl.map_eq_error_iff.mpr
    exact SanitizedUrl.ofMembers_byName_eq_error_iff.mpr ⟨_, _, h, rfl⟩

/-- It fails in no other way. One case for each shape. -/
theorem refuses_of_ofJson (h : shape.ofJson j = .error m) : Refuses shape j m := by
  cases shape with
  | one =>
    have hread := SanitizedUrl.map_eq_error_iff.mp h
    obtain ⟨hbad, rfl⟩ := SanitizedUrl.ofJson_eq_error_iff.mp hread
    exact .one hbad
  | option =>
    have hread := SanitizedUrl.map_eq_error_iff.mp h
    unfold SanitizedUrl.optionOfJson at hread
    split at hread
    · cases hread
    · next hnull =>
      have hone := SanitizedUrl.map_eq_error_iff.mp hread
      obtain ⟨hbad, rfl⟩ := SanitizedUrl.ofJson_eq_error_iff.mp hone
      exact .option hnull hbad
  | list =>
    have hread := SanitizedUrl.map_eq_error_iff.mp h
    cases j with
    | array items =>
      obtain ⟨strings, bad, after, rfl, hbad, rfl⟩ := SanitizedUrl.ofItems_eq_error_iff.mp hread
      exact .item strings hbad after
    | _ =>
      cases hread
      exact .noArray nofun
  | map =>
    have hread := SanitizedUrl.map_eq_error_iff.mp h
    cases j with
    | object members =>
      obtain ⟨name, bad, hfirst, rfl⟩ := SanitizedUrl.ofMembers_byName_eq_error_iff.mp hread
      exact .member hfirst
    | _ =>
      cases hread
      exact .noObject nofun

theorem ofJson_eq_error_iff : shape.ofJson j = .error m ↔ Refuses shape j m :=
  ⟨refuses_of_ofJson, Refuses.ofJson_eq⟩

/-- The reader succeeds on what is accepted. -/
theorem exists_ofJson_eq_ok_iff : (∃ x, shape.ofJson j = .ok x) ↔ shape.Accepts j := by
  constructor
  · rintro ⟨x, h⟩
    exact (reads_of_ofJson h).accepts
  · intro h
    cases hread : shape.ofJson j with
    | ok x => exact ⟨x, rfl⟩
    | error m => exact absurd h (refuses_of_ofJson hread).not_accepts

end Shape

/-! ## Writing and reading again -/

namespace Shaped

variable {x : Shaped SanitizedUrl}

def shape {α : Type} : Shaped α → Shape
  | one _ => .one
  | option _ => .option
  | list _ => .list
  | map _ => .map

/-- A map's names ascend. The other shapes have no names. -/
def InOrder {α : Type} : Shaped α → Prop
  | map as => Ascending as
  | _ => True

/-- Sanitized URLs that are written are read back, since to sanitize them again changes nothing. -/
theorem reads_toJson (h : x.InOrder) : Shape.Reads x.shape x.toJson x := by
  cases x with
  | one u =>
    have hread := Shape.Reads.one u.value
    rwa [SanitizedUrl.sanitize_value] at hread
  | option u? =>
    cases u? with
    | none => exact .null
    | some u =>
      have hread := Shape.Reads.option u.value
      rwa [SanitizedUrl.sanitize_value] at hread
  | list urls =>
    have hread := Shape.Reads.list (urls.map SanitizedUrl.value)
    rw [List.map_map, List.map_map] at hread
    have hsame : urls.map (Url.sanitize ∘ SanitizedUrl.value) = urls := by
      apply List.map_id''
      exact SanitizedUrl.sanitize_value
    rwa [hsame] at hread
  | map named =>
    have htexts : HoldsTexts (named.map fun m => (m.1, m.2.toJson))
        (named.map fun m => (m.1, m.2.value)) := by
      rw [← Json.byName_eq_map_iff, Json.byName_eq_self (Json.ascending_map.mpr h), List.map_map]
      rfl
    have hread := Shape.Reads.map htexts
    rw [List.map_map] at hread
    have hsame : named.map ((fun t => (t.1, Url.sanitize t.2)) ∘ fun m => (m.1, m.2.value))
        = named := by
      apply List.map_id''
      intro m
      exact Prod.ext rfl (SanitizedUrl.sanitize_value m.2)
    rwa [hsame] at hread

theorem numberFree_toJson (x : Shaped SanitizedUrl) : Json.NumberFree x.toJson := by
  cases x with
  | one u => exact .string u.value
  | option u? =>
    cases u? with
    | none => exact .null
    | some u => exact .string u.value
  | list urls =>
    apply Json.NumberFree.array
    rw [List.forall_mem_map]
    exact fun u _ => .string u.value
  | map named =>
    apply Json.NumberFree.object
    rw [List.forall_mem_map]
    exact fun m _ => .string m.2.value

end Shaped

/-! ## Both directions -/

/-- What a reader makes of a value. -/
structure ReadsOrRefuses (shape : Shape) (j : Json) : Prop where
  succeeds_iff : (∃ x, shape.ofJson j = .ok x) ↔ shape.Accepts j
  ok_iff : ∀ x, shape.ofJson j = .ok x ↔ shape.Reads j x
  error_iff : ∀ m, shape.ofJson j = .error m ↔ shape.Refuses j m

/-- **Reading from JSON.** Any value is read in a shape exactly if it has strings wherever the shape
has URLs, and what is read then are these strings, each sanitized, none left out. Any other value is
refused for itself or for the first value in it that is no string. What is written of URLs that were
sanitized is read back, from the value and from its text, and one URL is written as its string. -/
theorem reads_or_refuses : (∀ (shape : Shape) (j : Json), ReadsOrRefuses shape j) ∧
    (∀ x : Shaped SanitizedUrl, x.InOrder →
      x.shape.ofJson x.toJson = .ok x ∧ Json.parse? x.toJson.toLine = some x.toJson) ∧
    ∀ u : SanitizedUrl, u.toJson = .string u.value := by
  refine ⟨fun shape j => ⟨?_, ?_, ?_⟩, fun x h => ⟨?_, ?_⟩, fun u => rfl⟩
  · exact Shape.exists_ofJson_eq_ok_iff
  · exact fun x => Shape.ofJson_eq_ok_iff
  · exact fun m => Shape.ofJson_eq_error_iff
  · exact (Shaped.reads_toJson h).ofJson_eq
  · exact Json.parse?_toLine (Shaped.numberFree_toJson x)

/-- The placeholder in a map is read back too. -/
theorem reads_or_refuses_map :
    let x : Shaped SanitizedUrl := .map [("a", Url.sanitize "/a"), ("b", .innocuous)]
    x.InOrder ∧ Shape.map.ofJson x.toJson = .ok x := by
  intro x
  have horder : x.InOrder := by
    show List.Pairwise _ _
    decide +kernel
  exact ⟨horder, (reads_or_refuses.2.1 x horder).1⟩

end LinkGate
