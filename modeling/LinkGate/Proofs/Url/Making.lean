import LinkGate.Json.Parser
import LinkGate.Proofs.Url.Decoding
import LinkGate.Proofs.Url.Sanitized
import Mathlib.Data.List.Induction

/-!
# Every way to make a sanitized URL

A program makes sanitized URLs in any order and as often as it likes: from texts, from JSON, and
from URLs it has made before. `run` performs such a sequence of operations and collects every URL
that comes out, each with the text it was made from. `Made.Sound` says what holds of one of them.

A step gives sound URLs if those at hand are sound (`sound_of_mem_makes`), so every URL that a run
collects is sound (`sound_of_mem_run`). Only a clone needs what is known of the URLs at hand. All
other operations sanitize a text anew, whether or not it comes from a sanitized URL.
-/

namespace LinkGate

open Url

/-- A sanitized URL and the text that it was made from. The placeholder may be made from none. -/
structure Made where
  source : Option String
  url : SanitizedUrl

namespace Made

/-! ## Operations -/

/-- A way to make sanitized URLs. The URLs that were made before go by their places. -/
inductive Operation
  | sanitize (s : String)
  | sanitizeWithVerdict (s : String)
  | innocuous
  | clone (place : Nat)
  /-- Reads JSON in a shape. -/
  | read (shape : Shape) (j : Json)
  /-- Reads a JSON text in a shape. -/
  | readText (shape : Shape) (text : String)
  /-- Writes URLs in a shape as JSON and reads them back. -/
  | reread (places : Shaped Nat) (shape : Shape)
  /-- Sanitizes the text of a URL. -/
  | resanitize (place : Nat)

/-- The values at the places that are put in a shape, if there are any. -/
def pick? {α : Type} (pool : List α) : Shaped Nat → Option (Shaped α)
  | .one place => pool[place]?.map .one
  | .option none => some (.option none)
  | .option (some place) => pool[place]?.map fun a => .option (some a)
  | .list places => (places.mapM fun place => pool[place]?).map .list
  | .map places => (places.mapM fun m => pool[m.2]?.map (m.1, ·)).map .map

def ofText (s : String) : Made := ⟨some s, Url.sanitize s⟩

/-- The URLs that are read from JSON in a shape, each with the string at its place. There are none
if the reader fails. -/
def ofJson (shape : Shape) (j : Json) : List Made :=
  match shape.ofJson j with
  | .error _ => []
  | .ok x => x.values.zipIdx.map fun (u, i) => ⟨(shape.texts j)[i]?, u⟩

def makes (pool : List Made) : Operation → List Made
  | .sanitize s => [ofText s]
  | .sanitizeWithVerdict s => [⟨some s, (Url.sanitizeWithVerdict s).1⟩]
  | .innocuous => [⟨none, SanitizedUrl.innocuous⟩]
  | .clone place => pool[place]?.toList
  | .read shape j => ofJson shape j
  | .readText shape text =>
    match Json.parse? text with
    | none => []
    | some j => ofJson shape j
  | .reread places shape =>
    match pick? (pool.map (·.url)) places with
    | none => []
    | some x => ofJson shape x.toJson
  | .resanitize place => (pool[place]?.map fun m => ofText m.url.value).toList

def run (ops : List Operation) : List Made :=
  ops.foldl (fun pool op => pool ++ makes pool op) []

/-! ## Soundness -/

/-- What holds of every sanitized URL. -/
structure Sound (m : Made) : Prop where
  /-- The URL is safe and no placeholder, or it is the placeholder and not safe. -/
  safe_or_innocuous : (isSafe m.url.value = true ∧ m.url.isInnocuous = false) ∨
    (m.url = SanitizedUrl.innocuous ∧ isSafe m.url.value = false)
  sanitize_value : Url.sanitize m.url.value = m.url
  /-- Only the placeholder may be made from no text. -/
  eq_innocuous_of_no_source : m.source = none → m.url = SanitizedUrl.innocuous
  value_eq_of_safe : ∀ s ∈ m.source, classify s = .safe → m.url.value = s
  value_eq_of_refused : ∀ s ∈ m.source, classify s ≠ .safe → m.url.value = placeholder
  /-- The placeholder stands for refused texts only. -/
  isInnocuous_iff : ∀ s ∈ m.source, (m.url.isInnocuous = true ↔ isSafe s = false)

variable {m : Made} {pool : List Made} {op : Operation}

theorem sound_ofText (s : String) : (ofText s).Sound where
  safe_or_innocuous := (sanitize s).safe_or_innocuous
  sanitize_value := (sanitize s).sanitize_value
  eq_innocuous_of_no_source := by
    intro hsource
    cases hsource
  value_eq_of_safe := by
    intro t ht hsafe
    cases ht
    exact sanitize_of_isSafe (isSafe_eq_true_iff.mpr hsafe)
  value_eq_of_refused := by
    intro t ht hrefused
    cases ht
    exact value_sanitize_of_not_isSafe (mt isSafe_eq_true_iff.mp hrefused)
  isInnocuous_iff := by
    intro t ht
    cases ht
    show (sanitize s).isInnocuous = true ↔ isSafe s = false
    rw [SanitizedUrl.isInnocuous_sanitize_iff, Bool.not_eq_true]

/-- The placeholder may be made from nothing. -/
theorem sound_innocuous : Sound ⟨none, SanitizedUrl.innocuous⟩ where
  safe_or_innocuous := SanitizedUrl.innocuous.safe_or_innocuous
  sanitize_value := SanitizedUrl.innocuous.sanitize_value
  eq_innocuous_of_no_source := fun _ => rfl
  value_eq_of_safe := by
    intro s hs
    cases hs
  value_eq_of_refused := by
    intro s hs
    cases hs
  isInnocuous_iff := by
    intro s hs
    cases hs

/-- What is read from JSON is made from the string at its place. -/
theorem eq_ofText_of_mem_ofJson {shape : Shape} {j : Json} (hm : m ∈ ofJson shape j) :
    ∃ s, m = ofText s := by
  unfold ofJson at hm
  cases hread : shape.ofJson j with
  | error e =>
    rw [hread] at hm
    cases hm
  | ok x =>
    rw [hread] at hm
    obtain ⟨⟨u, i⟩, hui, hmade⟩ := List.mem_map.mp hm
    have hvalue : x.values[i]? = some u := (List.mem_zipIdx_iff_getElem?).mp hui
    -- the URL at a place is the string at that place, sanitized
    rw [Shape.values_eq_of_ofJson hread, List.getElem?_map] at hvalue
    obtain ⟨s, hs, hu⟩ := Option.map_eq_some_iff.mp hvalue
    refine ⟨s, ?_⟩
    rw [← hmade, ofText, hu]
    show (⟨(shape.texts j)[i]?, u⟩ : Made) = ⟨some s, u⟩
    rw [hs]

theorem sound_of_mem_ofJson {shape : Shape} {j : Json} (hm : m ∈ ofJson shape j) : m.Sound := by
  obtain ⟨s, hs⟩ := eq_ofText_of_mem_ofJson hm
  rw [hs]
  exact sound_ofText s

/-! ## Steps and runs -/

/-- Every operation makes sound URLs, if those before were sound. One case for each operation. -/
theorem sound_of_mem_makes (hpool : ∀ m ∈ pool, m.Sound) (hm : m ∈ makes pool op) : m.Sound := by
  cases op with
  | sanitize s =>
    rw [List.mem_singleton.mp hm]
    exact sound_ofText s
  | sanitizeWithVerdict s =>
    rw [List.mem_singleton.mp hm]
    exact sound_ofText s
  | innocuous =>
    rw [List.mem_singleton.mp hm]
    exact sound_innocuous
  | clone place =>
    -- the one operation that sanitizes nothing
    have hplace : pool[place]? = some m := Option.mem_toList.mp hm
    exact hpool m (List.mem_of_getElem? hplace)
  | read shape j => exact sound_of_mem_ofJson hm
  | readText shape text =>
    unfold makes at hm
    cases hj : Json.parse? text with
    | none =>
      simp only [hj] at hm
      cases hm
    | some j =>
      simp only [hj] at hm
      exact sound_of_mem_ofJson hm
  | reread places shape =>
    unfold makes at hm
    cases hx : pick? (pool.map (·.url)) places with
    | none =>
      simp only [hx] at hm
      cases hm
    | some x =>
      simp only [hx] at hm
      exact sound_of_mem_ofJson hm
  | resanitize place =>
    have hplace := Option.mem_toList.mp hm
    obtain ⟨m', -, hm'⟩ := Option.map_eq_some_iff.mp hplace
    rw [← hm']
    exact sound_ofText m'.url.value

/-- A last operation adds what it makes. -/
theorem run_concat (ops : List Operation) (op : Operation) :
    run (ops ++ [op]) = run ops ++ makes (run ops) op := by
  rw [run, List.foldl_append]
  rfl

/-- Every sequence of operations makes sound URLs, by induction from its last operation on. -/
theorem sound_of_mem_run (ops : List Operation) : ∀ m ∈ run ops, m.Sound := by
  -- from the end of the run, where the URLs at hand are those of a shorter run
  induction ops using List.reverseRecOn with
  | nil =>
    intro m hm
    cases hm
  | append_singleton ops op ih =>
    intro m hm
    rw [run_concat] at hm
    rcases List.mem_append.mp hm with hbefore | hnew
    · exact ih m hbefore
    · exact sound_of_mem_makes ih hnew

/-- Whatever sequence of operations made a sanitized URL, it is sound; and sanitizing keeps a text
exactly if the text is safe or is the placeholder. -/
theorem sound_of_run (ops : List Operation) :
    (∀ m ∈ run ops, m.Sound) ∧
      ∀ s, (Url.sanitize s).value = s ↔ isSafe s = true ∨ s = placeholder :=
  ⟨sound_of_mem_run ops, fun _ => value_sanitize_eq_self_iff⟩

-- a refused text and a relative link are read, and written as JSON and read once more
example : (run [.sanitize "x:y", .read .option (.string "/a:b"),
    .reread (.list [0, 1]) .list]).map (·.url.value) =
      [placeholder, "/a:b", placeholder, "/a:b"] := by decide

end Made

end LinkGate
