import LinkGate.Toml.Document
import Mathlib.Data.List.Nodup

/-!
# The keys of a document

A document gives each of its keys once (`nodup_keys_of_parse?`). Every line that is read either
leaves the keys as they are or adds one that was missing, and a table that is opened after it was
implied is moved, not copied. So what a key means can be asked by its name, and does not depend on
the order of the entries.
-/

namespace LinkGate.Toml

variable {entries es : Entries} {key : String} {value : Value}

namespace Entries

def keys (entries : Entries) : List String :=
  entries.map Prod.fst

theorem get?_eq_none_iff : entries.get? key = none ↔ key ∉ entries.keys := by
  rw [get?, List.lookup_eq_none_iff, keys]
  constructor
  · intro h hkey
    obtain ⟨e, he, rfl⟩ := List.mem_map.mp hkey
    simpa using h e he
  · intro h e he
    have hne : key ≠ e.1 := fun heq => h (heq ▸ List.mem_map_of_mem he)
    simpa using hne

theorem get?_cons (first : String) (kept : Value) (rest : Entries) (key : String) :
    get? ((first, kept) :: rest) key = if key = first then some kept else rest.get? key := by
  show List.lookup key ((first, kept) :: rest) = _
  rw [List.lookup_cons]
  split
  · next h => rw [if_pos (beq_iff_eq.mp h)]
  · next h => rw [if_neg (by simpa using h)]; rfl

/-- If the keys are distinct, a key has the value of its one entry. -/
theorem get?_eq_some_iff (h : entries.keys.Nodup) :
    entries.get? key = some value ↔ (key, value) ∈ entries := by
  induction entries with
  | nil => simp [get?]
  | cons e rest ih =>
    obtain ⟨first, kept⟩ := e
    obtain ⟨hfirst, hrest⟩ := List.nodup_cons.mp h
    rw [get?_cons, List.mem_cons]
    split
    · next hkey =>
      subst hkey
      have hnot : (key, value) ∉ rest := by
        intro hmem
        exact hfirst (List.mem_map.mpr ⟨_, hmem, rfl⟩)
      simp [hnot, eq_comm]
    · next hkey => simpa [hkey] using ih hrest

@[simp] theorem keys_replace : (entries.replace key value).keys = entries.keys := by
  rw [keys, replace, List.map_map]
  apply List.map_congr_left
  intro e _
  show (if e.1 = key then (key, value) else e).1 = e.1
  split
  · next h => exact h.symm
  · rfl

/-- An entry may be added at the end if its key is missing. -/
theorem nodup_keys_append (h : entries.keys.Nodup) (hkey : entries.get? key = none) :
    keys (entries ++ [(key, value)]) |>.Nodup := by
  rw [keys, List.map_append]
  apply List.Nodup.append h (List.nodup_singleton key)
  exact List.disjoint_singleton.mpr (get?_eq_none_iff.mp hkey)

theorem nodup_keys_erase (h : entries.keys.Nodup) : (entries.erase key).keys.Nodup :=
  h.sublist (List.filter_sublist.map Prod.fst)

theorem get?_erase_self : (entries.erase key).get? key = none := by
  rw [get?_eq_none_iff]
  intro hkey
  obtain ⟨e, he, rfl⟩ := List.mem_map.mp hkey
  simpa using (List.mem_filter.mp he).2

end Entries

open Entries

/-! ## What may be added to a table -/

/-- Only the end of the path is changed otherwise than by a key that was missing, so there is
nothing to show of the tables on the way. -/
theorem nodup_keys_descend {dotted : Bool} {kind : TableKind} {path : List String}
    {change : TableKind → Entries → Option Entries} (hentries : entries.keys.Nodup)
    (hchange : ∀ es, change kind entries = some es → es.keys.Nodup)
    (h : descend dotted kind entries path change = some es) : es.keys.Nodup := by
  cases path with
  | nil => exact hchange es h
  | cons name path =>
    unfold descend at h
    split at h
    · next hmissing =>
      obtain ⟨below, -, rfl⟩ := Option.map_eq_some_iff.mp h
      exact nodup_keys_append hentries hmissing
    · cases h
    · split at h
      · cases h
      · obtain ⟨below, -, rfl⟩ := Option.map_eq_some_iff.mp h
        rwa [keys_replace]
    · split at h
      · cases h
      · obtain ⟨below, -, rfl⟩ := Option.map_eq_some_iff.mp h
        rwa [keys_replace]
    · cases h

/-- To define a key keeps the keys distinct, since a key that is there is an error. -/
theorem nodup_keys_define (hentries : entries.keys.Nodup) (h : define key value entries = some es) :
    es.keys.Nodup := by
  unfold define at h
  split at h
  · cases h
  · next hmissing =>
    cases h
    apply nodup_keys_append hentries
    simpa [Entries.has] using hmissing

/-- So does a dotted key. -/
theorem nodup_keys_assign {kind : TableKind} {path : List String} (hentries : entries.keys.Nodup)
    (h : assign kind entries path key value = some es) : es.keys.Nodup := by
  refine nodup_keys_descend hentries (fun es hes => ?_) h
  split at hes
  · cases hes
  · exact nodup_keys_define hentries hes

/-- A table that was implied is moved to the end, so its key is there only once. -/
theorem nodup_keys_openTable (hentries : entries.keys.Nodup) (h : openTable key entries = some es) :
    es.keys.Nodup := by
  unfold openTable at h
  split at h
  · next hmissing =>
    cases h
    exact nodup_keys_append hentries hmissing
  · -- the table was implied, and is taken out before it is put at the end
    cases h
    exact nodup_keys_append (nodup_keys_erase hentries) get?_erase_self
  · cases h

/-- A further item goes to the array that is there. -/
theorem nodup_keys_openItem (hentries : entries.keys.Nodup) (h : openItem key entries = some es) :
    es.keys.Nodup := by
  unfold openItem at h
  split at h
  · next hmissing =>
    cases h
    exact nodup_keys_append hentries hmissing
  · cases h
    rwa [keys_replace]
  · cases h

/-! ## Reading the lines -/

namespace Progress

variable {p p' : Progress} {path : List String}

theorem nodup_keys_assign (hp : p.entries.keys.Nodup) (h : p.assign path key value = some p') :
    p'.entries.keys.Nodup := by
  obtain ⟨es, hes, rfl⟩ := Option.map_eq_some_iff.mp h
  exact nodup_keys_descend hp (fun _ => Toml.nodup_keys_assign hp) hes

theorem nodup_keys_openHeader {double : Bool} (hp : p.entries.keys.Nodup)
    (h : p.openHeader double path key = some p') : p'.entries.keys.Nodup := by
  obtain ⟨es, hes, rfl⟩ := Option.map_eq_some_iff.mp h
  refine nodup_keys_descend hp (fun es hes => ?_) hes
  split at hes
  · exact nodup_keys_openItem hp hes
  · exact nodup_keys_openTable hp hes

end Progress

variable {p p' : Progress} {s rest : List Char}

/-- A line is a header, a key with its value or neither, and keeps the keys distinct. -/
theorem nodup_keys_readLine (hp : p.entries.keys.Nodup) (h : readLine p s = some (p', rest)) :
    p'.entries.keys.Nodup := by
  unfold readLine at h
  split at h
  · -- a header
    obtain ⟨⟨⟨double, parts⟩, r⟩, -, h⟩ := Option.bind_eq_some_iff.mp h
    obtain ⟨r', -, h⟩ := Option.bind_eq_some_iff.mp h
    obtain ⟨opened, hopened, h⟩ := Option.bind_eq_some_iff.mp h
    cases h
    exact Progress.nodup_keys_openHeader hp hopened
  · split at h
    · cases h
      exact hp
    · -- a key with its value
      obtain ⟨⟨⟨parts, value⟩, r⟩, -, h⟩ := Option.bind_eq_some_iff.mp h
      obtain ⟨r', -, h⟩ := Option.bind_eq_some_iff.mp h
      obtain ⟨assigned, hassigned, h⟩ := Option.bind_eq_some_iff.mp h
      cases h
      exact Progress.nodup_keys_assign hp hassigned

/-- So do all lines, by induction on the fuel, of which each line takes one unit. -/
theorem nodup_keys_readLines {fuel : Nat} (hp : p.entries.keys.Nodup)
    (h : readLines fuel p s = some p') : p'.entries.keys.Nodup := by
  induction fuel generalizing p s with
  | zero =>
    cases s with
    | nil =>
      cases h
      exact hp
    | cons c s => cases h
  | succ fuel ih =>
    cases s with
    | nil =>
      cases h
      exact hp
    | cons c s =>
      unfold readLines at h
      split at h
      · cases h
      · next hline => exact ih (nodup_keys_readLine hp hline) h

/-- A document gives no key twice. -/
theorem nodup_keys_of_parse? {text : String} (h : parse? text = some entries) :
    entries.keys.Nodup := by
  obtain ⟨p, hp, rfl⟩ := Option.map_eq_some_iff.mp h
  have hstart : Progress.start.entries.keys.Nodup := List.nodup_nil
  exact nodup_keys_readLines hstart hp

end LinkGate.Toml
