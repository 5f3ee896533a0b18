import Mathlib.Data.List.DropRight

/-!
# Regular expressions as backtracking readers

An expression matches the front of a text in some number of ways. `ways` lists them in the order
in which a backtracking reader tries them: the left of two alternatives before the right, and a
repetition with as many characters as possible before one with fewer. The first way of the list
is the match, and what its groups hold is what the groups capture.

The order decides only which way is the first. `mem_ways_text` to `mem_ways_either` describe the
ways by the texts that they take, without the order, one lemma for each constructor. They are
enough for an expression that matches in at most one way.
-/

namespace LinkGate

/-- A regular expression that is tried at the start of a text. Only single characters are
repeated. -/
inductive Regex
  /-- The given text. -/
  | text (t : List Char)
  /-- One character of a class. -/
  | one (p : Char → Bool)
  /-- Any number of characters of a class. -/
  | many (p : Char → Bool)
  /-- The end of the text. -/
  | finish
  /-- The expression `r`, whose text is captured. -/
  | group (r : Regex)
  /-- First `r` and then `t`. -/
  | seq (r t : Regex)
  /-- Either `r` or `t`. -/
  | either (r t : Regex)

namespace Regex

/-- One way to match the front of a text: what it takes, what its groups capture, and what it
leaves. -/
structure Way where
  taken : List Char
  groups : List (List Char)
  rest : List Char

/-- The ways to take characters of a class, the longest first. -/
def manyWays (p : Char → Bool) : List Char → List Way
  | [] => [⟨[], [], []⟩]
  | c :: r =>
    (if p c then (manyWays p r).map fun w => { w with taken := c :: w.taken } else []) ++
      [⟨[], [], c :: r⟩]

/-- The ways in which an expression matches the front of a text, in the order of preference. -/
def ways : Regex → List Char → List Way
  | text t, s =>
    match t.isPrefixOf? s with
    | some rest => [⟨t, [], rest⟩]
    | none => []
  | one _, [] => []
  | one p, c :: r => if p c then [⟨[c], [], r⟩] else []
  | many p, s => manyWays p s
  | finish, [] => [⟨[], [], []⟩]
  | finish, _ :: _ => []
  | group r, s => (ways r s).map fun w => { w with groups := w.taken :: w.groups }
  | seq r t, s =>
    (ways r s).flatMap fun w =>
      (ways t w.rest).map fun v => ⟨w.taken ++ v.taken, w.groups ++ v.groups, v.rest⟩
  | either r t, s => ways r s ++ ways t s

def isMatch (r : Regex) (s : List Char) : Bool :=
  !(r.ways s).isEmpty

def captures? (r : Regex) (s : List Char) : Option (List (List Char)) :=
  (r.ways s).head?.map (·.groups)

/-- An expression that may be left out, and is left out only if that is needed. -/
def optional (r : Regex) : Regex := either r (text [])

def anyOf : List (List Char) → Regex
  | [] => one fun _ => false
  | t :: rest => either (text t) (anyOf rest)

/-! ## The ways of each constructor

A way is told by the three texts that it is made of. A sequence that starts with a text or with a
repetition takes that text, or some run of the class, and goes on behind it. -/

variable {a t s : List Char} {g : List (List Char)}

theorem mem_ways_text {x : List Char} :
    ⟨a, g, t⟩ ∈ (text x).ways s ↔ a = x ∧ g = [] ∧ s = x ++ t := by
  unfold ways
  split
  · next rest h =>
    rw [List.isPrefixOf?_eq_some_iff_append_eq] at h
    subst h
    simp [eq_comm]
  · next h =>
    refine ⟨fun hmem => ?_, fun hw => ?_⟩
    · cases hmem
    · obtain ⟨-, -, rfl⟩ := hw
      rw [List.isPrefixOf?_eq_some_iff_append_eq.mpr rfl] at h
      cases h

theorem mem_ways_one {p : Char → Bool} :
    ⟨a, g, t⟩ ∈ (one p).ways s ↔ ∃ c, p c = true ∧ a = [c] ∧ g = [] ∧ s = c :: t := by
  cases s with
  | nil => simp [ways]
  | cons d r =>
    by_cases hd : p d = true
    · simp only [ways, if_pos hd, List.mem_singleton, Way.mk.injEq]
      refine ⟨fun h => ?_, fun h => ?_⟩
      · obtain ⟨rfl, rfl, rfl⟩ := h
        exact ⟨d, hd, rfl, rfl, rfl⟩
      · obtain ⟨c, -, rfl, rfl, hs⟩ := h
        cases hs
        exact ⟨rfl, rfl, rfl⟩
    · simp only [ways, if_neg hd, List.not_mem_nil, false_iff]
      rintro ⟨c, hc, -, -, hs⟩
      cases hs
      exact hd hc

theorem mem_ways_many {p : Char → Bool} :
    ⟨a, g, t⟩ ∈ (many p).ways s ↔ (∀ c ∈ a, p c = true) ∧ g = [] ∧ s = a ++ t := by
  show ⟨a, g, t⟩ ∈ manyWays p s ↔ _
  -- by the text: a way to take its first character goes on as a way to take some of the rest,
  -- and every text has the way that takes nothing, so backtracking reaches every front in the class
  induction s generalizing a with
  | nil =>
    simp only [manyWays, List.mem_singleton, Way.mk.injEq]
    refine ⟨fun h => ?_, fun h => ?_⟩
    · obtain ⟨rfl, rfl, rfl⟩ := h
      simp
    · obtain ⟨-, rfl, hs⟩ := h
      obtain ⟨rfl, rfl⟩ := List.append_eq_nil_iff.mp hs.symm
      exact ⟨rfl, rfl, rfl⟩
  | cons d r ih =>
    rw [manyWays, List.mem_append, List.mem_singleton, Way.mk.injEq]
    refine ⟨fun hway => ?_, fun hway => ?_⟩
    · rcases hway with hmem | ⟨rfl, rfl, rfl⟩
      · split at hmem
        · next hd =>
          obtain ⟨⟨a', g', t'⟩, hw, heq⟩ := List.mem_map.mp hmem
          cases heq
          obtain ⟨ha, hg, hr⟩ := ih.mp hw
          exact ⟨List.forall_mem_cons.mpr ⟨hd, ha⟩, hg, by rw [hr, List.cons_append]⟩
        · cases hmem
      · simp
    · obtain ⟨ha, rfl, hs⟩ := hway
      cases a with
      | nil => exact .inr ⟨rfl, rfl, hs.symm⟩
      | cons c a' =>
        cases hs
        obtain ⟨hc, ha'⟩ := List.forall_mem_cons.mp ha
        rw [if_pos hc]
        exact .inl (List.mem_map.mpr ⟨⟨a', [], t⟩, ih.mpr ⟨ha', rfl, rfl⟩, rfl⟩)

theorem mem_ways_finish :
    ⟨a, g, t⟩ ∈ finish.ways s ↔ a = [] ∧ g = [] ∧ s = [] ∧ t = [] := by
  cases s <;> simp [ways]

theorem mem_ways_group {r : Regex} :
    ⟨a, g, t⟩ ∈ (group r).ways s ↔ ∃ inner, g = a :: inner ∧ ⟨a, inner, t⟩ ∈ r.ways s := by
  rw [ways, List.mem_map]
  refine ⟨fun h => ?_, fun h => ?_⟩
  · obtain ⟨⟨a', g', t'⟩, hw, heq⟩ := h
    cases heq
    exact ⟨g', rfl, hw⟩
  · obtain ⟨inner, rfl, hw⟩ := h
    exact ⟨⟨a, inner, t⟩, hw, rfl⟩

/-- What a sequence takes is what its parts take one after the other. -/
theorem mem_ways_seq {r u : Regex} :
    ⟨a, g, t⟩ ∈ (seq r u).ways s ↔ ∃ a₁ g₁ mid a₂ g₂, ⟨a₁, g₁, mid⟩ ∈ r.ways s ∧
      ⟨a₂, g₂, t⟩ ∈ u.ways mid ∧ a = a₁ ++ a₂ ∧ g = g₁ ++ g₂ := by
  rw [ways, List.mem_flatMap]
  refine ⟨fun h => ?_, fun h => ?_⟩
  · obtain ⟨⟨a₁, g₁, mid⟩, hw, hmem⟩ := h
    obtain ⟨⟨a₂, g₂, t'⟩, hv, heq⟩ := List.mem_map.mp hmem
    cases heq
    exact ⟨a₁, g₁, mid, a₂, g₂, hw, hv, rfl, rfl⟩
  · obtain ⟨a₁, g₁, mid, a₂, g₂, hw, hv, rfl, rfl⟩ := h
    exact ⟨⟨a₁, g₁, mid⟩, hw, List.mem_map.mpr ⟨⟨a₂, g₂, t⟩, hv, rfl⟩⟩

/-- A text in front is taken as it is. -/
theorem mem_ways_text_seq {x : List Char} {u : Regex} :
    ⟨a, g, t⟩ ∈ (seq (text x) u).ways s ↔
      ∃ b mid, ⟨b, g, t⟩ ∈ u.ways mid ∧ a = x ++ b ∧ s = x ++ mid := by
  rw [mem_ways_seq]
  refine ⟨fun h => ?_, fun h => ?_⟩
  · obtain ⟨a₁, g₁, mid, b, g₂, hx, hu, rfl, rfl⟩ := h
    obtain ⟨rfl, rfl, rfl⟩ := mem_ways_text.mp hx
    exact ⟨b, mid, hu, rfl, rfl⟩
  · obtain ⟨b, mid, hu, rfl, rfl⟩ := h
    exact ⟨x, [], mid, b, g, mem_ways_text.mpr ⟨rfl, rfl, rfl⟩, hu, rfl, rfl⟩

/-- A run in front may end anywhere within the characters of its class. -/
theorem mem_ways_many_seq {p : Char → Bool} {u : Regex} :
    ⟨a, g, t⟩ ∈ (seq (many p) u).ways s ↔ ∃ run b mid, (∀ c ∈ run, p c = true) ∧
      ⟨b, g, t⟩ ∈ u.ways mid ∧ a = run ++ b ∧ s = run ++ mid := by
  rw [mem_ways_seq]
  refine ⟨fun h => ?_, fun h => ?_⟩
  · obtain ⟨run, g₁, mid, b, g₂, hrun, hu, rfl, rfl⟩ := h
    obtain ⟨hall, rfl, rfl⟩ := mem_ways_many.mp hrun
    exact ⟨run, b, mid, hall, hu, rfl, rfl⟩
  · obtain ⟨run, b, mid, hall, hu, rfl, rfl⟩ := h
    exact ⟨run, [], mid, b, g, mem_ways_many.mpr ⟨hall, rfl, rfl⟩, hu, rfl, rfl⟩

theorem mem_ways_either {r u : Regex} {w : Way} :
    w ∈ (either r u).ways s ↔ w ∈ r.ways s ∨ w ∈ u.ways s := by
  rw [ways, List.mem_append]

/-- One of several texts is taken, by induction on them. -/
theorem mem_ways_anyOf {ts : List (List Char)} :
    ⟨a, g, t⟩ ∈ (anyOf ts).ways s ↔ a ∈ ts ∧ g = [] ∧ s = a ++ t := by
  induction ts with
  | nil => simp [anyOf, mem_ways_one]
  | cons x rest ih =>
    rw [anyOf, mem_ways_either, mem_ways_text, ih, List.mem_cons]
    refine ⟨fun h => ?_, fun h => ?_⟩
    · rcases h with ⟨rfl, hg, hs⟩ | ⟨ha, hg, hs⟩
      · exact ⟨.inl rfl, hg, hs⟩
      · exact ⟨.inr ha, hg, hs⟩
    · obtain ⟨rfl | ha, hg, hs⟩ := h
      · exact .inl ⟨rfl, hg, hs⟩
      · exact .inr ⟨ha, hg, hs⟩

/-! ## Matching -/

/-- An expression matches if there is a way. -/
theorem isMatch_iff {r : Regex} :
    r.isMatch s = true ↔ ∃ a g t, ⟨a, g, t⟩ ∈ r.ways s := by
  unfold isMatch
  cases h : r.ways s with
  | nil => simp
  | cons w ws =>
    simp only [List.isEmpty_cons, Bool.not_false, true_iff]
    exact ⟨w.taken, w.groups, w.rest, List.mem_cons_self⟩

/-- What is captured comes from one of the ways, if there are any. -/
theorem captures?_cases (r : Regex) (s : List Char) :
    (r.ways s = [] ∧ r.captures? s = none) ∨
      ∃ a g t, ⟨a, g, t⟩ ∈ r.ways s ∧ r.captures? s = some g := by
  unfold captures?
  cases h : r.ways s with
  | nil => exact .inl ⟨rfl, rfl⟩
  | cons w ws => exact .inr ⟨w.taken, w.groups, w.rest, List.mem_cons_self, rfl⟩

end Regex

end LinkGate
