import LinkGate.Proofs.Regex

/-!
# Readers that try an expression in an order of their own

`Regex.ways` is written in the order in which a backtracking reader goes. Other readers take as
few characters as they can, or follow all ways at once and choose at the end. `Takes` says what an
expression may match without a word on order, and a `Matcher` is any reader that finds a match
wherever `Takes` allows one and finds nothing else.

* `mem_ways_iff`: backtracking comes to every way that `Takes` allows, and to no other. It carries
  the statements on ways over to all matchers.
* `Matcher.isMatch_eq`: all matchers agree on whether an expression matches.
* `Unambiguous.find?_eq`: they agree on the match itself, and so on what is captured
  (`Unambiguous.captures?_eq`), if the expression takes every text in at most one way. For other
  expressions they need not.
-/

namespace LinkGate.Regex

variable {r : Regex} {a t s : List Char} {g : List (List Char)}

/-! ## Matching without an order -/

/-- `Takes r a g t`: in front of the text `t`, the expression `r` may match the text `a`, and then
its groups capture `g`. -/
inductive Takes : Regex → List Char → List (List Char) → List Char → Prop
  | text (x t : List Char) : Takes (text x) x [] t
  | one {p : Char → Bool} {c : Char} (t : List Char) (hc : p c = true) : Takes (one p) [c] [] t
  | many {p : Char → Bool} {a : List Char} (t : List Char) (ha : ∀ c ∈ a, p c = true) :
    Takes (many p) a [] t
  | finish : Takes finish [] [] []
  | group {r : Regex} {a t : List Char} {g : List (List Char)} (hr : Takes r a g t) :
    Takes (group r) a (a :: g) t
  | seq {r u : Regex} {a b t : List Char} {g g' : List (List Char)} (hr : Takes r a g (b ++ t))
    (hu : Takes u b g' t) : Takes (seq r u) (a ++ b) (g ++ g') t
  | left {r u : Regex} {a t : List Char} {g : List (List Char)} (hr : Takes r a g t) :
    Takes (either r u) a g t
  | right {r u : Regex} {a t : List Char} {g : List (List Char)} (hu : Takes u a g t) :
    Takes (either r u) a g t

/-- What an expression may take is listed. By induction on how it is taken. -/
theorem Takes.mem_ways (h : Takes r a g t) : ⟨a, g, t⟩ ∈ r.ways (a ++ t) := by
  induction h with
  | text x t => exact mem_ways_text.mpr ⟨rfl, rfl, rfl⟩
  | one t hc => exact mem_ways_one.mpr ⟨_, hc, rfl, rfl, rfl⟩
  | many t ha => exact mem_ways_many.mpr ⟨ha, rfl, rfl⟩
  | finish => exact mem_ways_finish.mpr ⟨rfl, rfl, rfl, rfl⟩
  | group _ ih => exact mem_ways_group.mpr ⟨_, rfl, ih⟩
  | seq _ _ ihr ihu =>
    -- the first part leaves what the second takes together with what both leave
    rw [List.append_assoc]
    exact mem_ways_seq.mpr ⟨_, _, _, _, _, ihr, ihu, rfl, rfl⟩
  | left _ ih => exact mem_ways_either.mpr (.inl ih)
  | right _ ih => exact mem_ways_either.mpr (.inr ih)

/-- Only that is listed. By induction on the expression. -/
theorem takes_of_mem_ways (h : ⟨a, g, t⟩ ∈ r.ways s) : Takes r a g t ∧ s = a ++ t := by
  induction r generalizing a g t s with
  | text x =>
    obtain ⟨rfl, rfl, hs⟩ := mem_ways_text.mp h
    exact ⟨.text a t, hs⟩
  | one p =>
    obtain ⟨c, hc, rfl, rfl, hs⟩ := mem_ways_one.mp h
    exact ⟨.one t hc, hs⟩
  | many p =>
    obtain ⟨ha, rfl, hs⟩ := mem_ways_many.mp h
    exact ⟨.many t ha, hs⟩
  | finish =>
    obtain ⟨rfl, rfl, rfl, rfl⟩ := mem_ways_finish.mp h
    exact ⟨.finish, rfl⟩
  | group r ih =>
    obtain ⟨inner, rfl, hw⟩ := mem_ways_group.mp h
    exact ⟨.group (ih hw).1, (ih hw).2⟩
  | seq r u ihr ihu =>
    obtain ⟨a₁, g₁, mid, a₂, g₂, hw, hv, rfl, rfl⟩ := mem_ways_seq.mp h
    obtain ⟨hr, hs⟩ := ihr hw
    obtain ⟨hu, rfl⟩ := ihu hv
    refine ⟨.seq hr hu, ?_⟩
    rw [hs, List.append_assoc]
  | either r u ihr ihu =>
    cases mem_ways_either.mp h with
    | inl hw => exact ⟨.left (ihr hw).1, (ihr hw).2⟩
    | inr hw => exact ⟨.right (ihu hw).1, (ihu hw).2⟩

/-- Backtracking comes to every way to match, and to no other. -/
theorem mem_ways_iff : ⟨a, g, t⟩ ∈ r.ways s ↔ Takes r a g t ∧ s = a ++ t := by
  constructor
  · exact takes_of_mem_ways
  · intro h
    rw [h.2]
    exact h.1.mem_ways

/-! ## Matchers -/

/-- A reader of expressions with an order of its own. It finds a match at the start of a text
wherever there is one. -/
structure Matcher where
  find? : Regex → List Char → Option Way
  takes_of_find? : ∀ {r s w}, find? r s = some w →
    Takes r w.taken w.groups w.rest ∧ s = w.taken ++ w.rest
  find?_of_takes : ∀ {r a g t}, Takes r a g t → (find? r (a ++ t)).isSome = true

namespace Matcher

def ofChoice (choose : List Way → Option Way) (hmem : ∀ {ws w}, choose ws = some w → w ∈ ws)
    (hsome : ∀ {ws}, ws ≠ [] → (choose ws).isSome = true) : Matcher where
  find? r s := choose (r.ways s)
  takes_of_find? h := takes_of_mem_ways (hmem h)
  find?_of_takes h := hsome (List.ne_nil_of_mem h.mem_ways)

/-- The backtracking reader, which repeats a class as often as it can. -/
def greedy : Matcher :=
  ofChoice List.head? List.mem_of_mem_head? fun h => List.isSome_head?.mpr h

/-- The reader with the opposite preferences, which repeats a class as seldom as it can. -/
def reluctant : Matcher :=
  ofChoice List.getLast? List.mem_of_getLast? fun h => List.getLast?_isSome.mpr h

def isMatch (m : Matcher) (r : Regex) (s : List Char) : Bool :=
  (m.find? r s).isSome

def captures? (m : Matcher) (r : Regex) (s : List Char) : Option (List (List Char)) :=
  (m.find? r s).map (·.groups)

variable {w : Way}

/-- What a reader finds is one of the ways. -/
theorem mem_ways_of_find? (m : Matcher) (h : m.find? r s = some w) : w ∈ r.ways s :=
  mem_ways_iff.mpr (m.takes_of_find? h)

/-- A reader finds something if there is a way. -/
theorem isSome_find?_iff (m : Matcher) : (m.find? r s).isSome = true ↔ ∃ w, w ∈ r.ways s := by
  constructor
  · intro h
    obtain ⟨w, hw⟩ := Option.isSome_iff_exists.mp h
    exact ⟨w, m.mem_ways_of_find? hw⟩
  · intro h
    obtain ⟨w, hw⟩ := h
    obtain ⟨htakes, hs⟩ := takes_of_mem_ways hw
    rw [hs]
    exact m.find?_of_takes htakes

/-- All matchers agree with the backtracking reader on whether an expression matches. -/
theorem isMatch_eq (m : Matcher) (r : Regex) (s : List Char) : m.isMatch r s = r.isMatch s := by
  rw [Bool.eq_iff_iff, isMatch, isSome_find?_iff, isMatch_iff]
  constructor
  · intro h
    obtain ⟨w, hw⟩ := h
    exact ⟨w.taken, w.groups, w.rest, hw⟩
  · intro h
    obtain ⟨a, g, t, hw⟩ := h
    exact ⟨_, hw⟩

end Matcher

/-! ## Unambiguous expressions -/

def Unambiguous (r : Regex) : Prop :=
  ∀ {a g t a' g' t'}, Takes r a g t → Takes r a' g' t' → a ++ t = a' ++ t' →
    a = a' ∧ g = g' ∧ t = t'

namespace Unambiguous

/-- Of an unambiguous expression there is one way at most. -/
theorem eq_of_mem_ways {w v : Way} (h : r.Unambiguous) (hw : w ∈ r.ways s) (hv : v ∈ r.ways s) :
    w = v := by
  obtain ⟨htakes, hs⟩ := takes_of_mem_ways hw
  obtain ⟨htakes', hs'⟩ := takes_of_mem_ways hv
  obtain ⟨htaken, hgroups, hrest⟩ := h htakes htakes' (hs.symm.trans hs')
  show Way.mk w.taken w.groups w.rest = Way.mk v.taken v.groups v.rest
  rw [htaken, hgroups, hrest]

/-- So any reader finds that one. -/
theorem find?_eq_some_iff {w : Way} (h : r.Unambiguous) (m : Matcher) :
    m.find? r s = some w ↔ w ∈ r.ways s := by
  constructor
  · exact m.mem_ways_of_find?
  · intro hw
    obtain ⟨v, hv⟩ := Option.isSome_iff_exists.mp (m.isSome_find?_iff.mpr ⟨w, hw⟩)
    rw [hv, h.eq_of_mem_ways (m.mem_ways_of_find? hv) hw]

/-- An unambiguous expression is matched by all matchers alike. -/
theorem find?_eq (h : r.Unambiguous) (m n : Matcher) (s : List Char) :
    m.find? r s = n.find? r s := by
  apply Option.ext
  intro w
  rw [h.find?_eq_some_iff m, h.find?_eq_some_iff n]

/-- And any reader captures the same. -/
theorem captures?_eq (h : r.Unambiguous) (m : Matcher) (s : List Char) :
    m.captures? r s = r.captures? s := by
  show (m.find? r s).map (·.groups) = (Matcher.greedy.find? r s).map (·.groups)
  rw [h.find?_eq m Matcher.greedy]

/-- A repetition at the end is ambiguous, and what it captures is up to the matcher. -/
example : Matcher.greedy.captures? (group (many Char.isAlpha)) ['a'] = some [['a']] ∧
    Matcher.reluctant.captures? (group (many Char.isAlpha)) ['a'] = some [[]] := by decide

end Unambiguous

end LinkGate.Regex
