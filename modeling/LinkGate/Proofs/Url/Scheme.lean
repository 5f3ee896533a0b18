import LinkGate.Proofs.Text.LetterCase
import LinkGate.Proofs.Text.Run
import LinkGate.Url.Scheme

/-!
# The scheme of a URL and its first delimiter

`scheme?` cuts a URL at its first delimiter. Here the cut is told from outside:
`scheme?_eq_some_iff` by the texts on both sides of it, `FirstDelimiter` by the place where it is
made. A text has a scheme if its first delimiter is a colon, and it has none if that is another one
or is missing. Delimiters are no letters, so letter case moves neither the cut nor its kind
(`scheme?_lower`).
-/

namespace LinkGate.Url

open Text

variable {s k r : List Char}

/-! ## Delimiters -/

theorem isDelimiter_iff {c : Char} :
    isDelimiter c = true ↔ c = ':' ∨ c = '/' ∨ c = '?' ∨ c = '#' := by
  simp [isDelimiter, or_assoc]

/-- Delimiters are no letters. -/
theorem isDelimiter_toLower (c : Char) : isDelimiter c.toLower = isDelimiter c := by
  rw [Bool.eq_iff_iff, isDelimiter_iff, isDelimiter_iff, toLower_eq_iff (by decide),
    toLower_eq_iff (by decide), toLower_eq_iff (by decide), toLower_eq_iff (by decide)]

/-! ## The cut at the first delimiter -/

/-- What stands before a delimiter is cut off there. -/
theorem head_append (hk : ∀ c ∈ k, isDelimiter c = false) (hr : EndsRun (!isDelimiter ·) r) :
    head (k ++ r) = k :=
  takeWhile_append_of_endsRun (by simpa using hk) hr

theorem afterHead_append (hk : ∀ c ∈ k, isDelimiter c = false)
    (hr : EndsRun (!isDelimiter ·) r) : afterHead (k ++ r) = r :=
  dropWhile_append_of_endsRun (by simpa using hk) hr

theorem isDelimiter_head (s : List Char) : ∀ c ∈ head s, isDelimiter c = false := by
  intro c hc
  have hnot := List.mem_takeWhile_imp hc
  simpa using hnot

/-- A text is its head, which has no delimiter, and either nothing more or a delimiter with what
follows it. -/
theorem head_cases (s : List Char) :
    s = head s ∨ ∃ c r, isDelimiter c = true ∧ s = head s ++ c :: r := by
  have hs := head_append_afterHead s
  cases h : afterHead s with
  | nil => exact .inl (by rw [h, List.append_nil] at hs; exact hs.symm)
  | cons c r =>
    have hc : EndsRun (!isDelimiter ·) (afterHead s) := endsRun_dropWhile _ s
    rw [h, endsRun_cons] at hc
    exact .inr ⟨c, r, by simpa using hc, by rw [← h]; exact hs.symm⟩

/-! ## The scheme -/

/-- What stands before the first delimiter is a scheme if that is a colon. -/
theorem scheme?_append_delimiter {c : Char} (hk : ∀ d ∈ k, isDelimiter d = false)
    (hc : isDelimiter c = true) : scheme? (k ++ c :: r) = if c = ':' then some k else none := by
  have hr : EndsRun (!isDelimiter ·) (c :: r) := endsRun_cons.mpr (by simpa using hc)
  rw [scheme?, afterHead_append hk hr, head_append hk hr]
  split
  · next heq => rw [if_pos (List.cons.inj heq).1]
  · next hne => exact (if_neg fun h => hne r (by rw [h])).symm

/-- Without a delimiter there is no scheme. -/
theorem scheme?_eq_none_of_forall (hs : ∀ c ∈ s, isDelimiter c = false) : scheme? s = none := by
  have h : afterHead s = [] := List.dropWhile_eq_nil_iff.mpr (by simpa using hs)
  rw [scheme?, h]

/-- The scheme is what stands before a colon and has no delimiter in it. -/
theorem scheme?_eq_some_iff :
    scheme? s = some k ↔ (∀ c ∈ k, isDelimiter c = false) ∧ ∃ r, s = k ++ ':' :: r := by
  refine ⟨fun h => ?_, fun hw => ?_⟩
  · rcases head_cases s with hs | ⟨c, r, hc, hs⟩
    · have hnone := isDelimiter_head s
      rw [← hs] at hnone
      rw [scheme?_eq_none_of_forall hnone] at h
      cases h
    · have hk := isDelimiter_head s
      rw [hs, scheme?_append_delimiter hk hc] at h
      split at h
      · next hcolon =>
        cases h
        exact ⟨hk, r, by rw [← hcolon]; exact hs⟩
      · cases h
  · obtain ⟨hk, r, rfl⟩ := hw
    rw [scheme?_append_delimiter hk (by decide), if_pos rfl]

/-- Letter case does not take part in finding the scheme. -/
theorem scheme?_lower (s : List Char) : scheme? (lower s) = (scheme? s).map lower := by
  have hlow : ∀ t : List Char, (∀ c ∈ t, isDelimiter c = false) →
      ∀ c ∈ lower t, isDelimiter c = false := by
    intro t ht c hc
    obtain ⟨d, hd, rfl⟩ := List.mem_map.mp hc
    rw [isDelimiter_toLower, ht d hd]
  have hhead := isDelimiter_head s
  rcases head_cases s with hs | ⟨c, r, hc, hs⟩
  · rw [hs, scheme?_eq_none_of_forall hhead, scheme?_eq_none_of_forall (hlow _ hhead)]
    rfl
  · rw [hs, scheme?_append_delimiter hhead hc, lower_append, lower_cons,
      scheme?_append_delimiter (hlow _ hhead) (by rw [isDelimiter_toLower, hc])]
    have hcolon : c.toLower = ':' ↔ c = ':' := toLower_eq_iff (by decide)
    by_cases h : c = ':'
    · rw [if_pos h, if_pos (hcolon.mpr h)]
      rfl
    · rw [if_neg h, if_neg (mt hcolon.mp h)]
      rfl

/-! ## The place of the first delimiter -/

/-- The first delimiter in `s` is `c`, and it stands at place `i`. -/
structure FirstDelimiter (s : List Char) (i : Nat) (c : Char) : Prop where
  getElem? : s[i]? = some c
  isDelimiter : isDelimiter c = true
  before : ∀ j < i, ∀ d, s[j]? = some d → Url.isDelimiter d = false

namespace FirstDelimiter

variable {i : Nat} {c : Char}

theorem forall_take (h : FirstDelimiter s i c) : ∀ d ∈ s.take i, Url.isDelimiter d = false := by
  intro d hd
  obtain ⟨j, hj⟩ := List.mem_iff_getElem?.mp hd
  rw [List.getElem?_take] at hj
  split at hj
  · next hji => exact h.before j hji d hj
  · cases hj

/-- The first delimiter stands between what is before it and a rest. -/
theorem eq_take_append (h : FirstDelimiter s i c) : ∃ r, s = s.take i ++ c :: r := by
  obtain ⟨hi, hc⟩ := List.getElem?_eq_some_iff.mp h.getElem?
  refine ⟨s.drop (i + 1), ?_⟩
  rw [← hc, ← List.drop_eq_getElem_cons hi, List.take_append_drop]

/-- The first delimiter decides whether there is a scheme. -/
theorem scheme?_eq (h : FirstDelimiter s i c) :
    scheme? s = if c = ':' then some (s.take i) else none := by
  obtain ⟨r, hs⟩ := h.eq_take_append
  conv => lhs; rw [hs]
  exact scheme?_append_delimiter h.forall_take h.isDelimiter

end FirstDelimiter

/-- A text has no delimiter, or it has a first one. -/
theorem forall_or_firstDelimiter (s : List Char) :
    (∀ c ∈ s, isDelimiter c = false) ∨ ∃ i c, FirstDelimiter s i c := by
  rcases head_cases s with hs | ⟨c, r, hc, hs⟩
  · refine .inl ?_
    rw [hs]
    exact isDelimiter_head s
  · refine .inr ⟨(head s).length, c, ⟨?_, hc, ?_⟩⟩
    · have hlast : (head s ++ c :: r)[(head s).length]? = some c := by
        rw [List.getElem?_append_right (Nat.le_refl _), Nat.sub_self]
        rfl
      rw [← hs] at hlast
      exact hlast
    · intro j hj d hd
      rw [hs, List.getElem?_append_left hj] at hd
      exact isDelimiter_head s d (List.mem_of_getElem? hd)

end LinkGate.Url
