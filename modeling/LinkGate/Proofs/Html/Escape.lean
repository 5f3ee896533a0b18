import LinkGate.Html.Attribute
import LinkGate.Proofs.Text.Run

/-!
# Escaping and its decoder

`escape` writes each of five characters as a reference, and `decode` undoes these references from
left to right. The text that is escaped may itself hold what looks like a reference, so two things
could go wrong: a reference that is put together from the end of one character and the start of
the next, and a reference that is undone twice. Neither happens, because an ampersand is only
ever the first character of a reference (`written_escape`), and because a decoder that stands at
the start of one leaves it behind as a whole (`decode_escapeChar_append`).

`Written` describes the texts that escaping can give, without escaping.
-/

namespace LinkGate.Html

variable {s t r : List Char} {c : Char}

/-! ## One character -/

theorem escapeChar_of_not_mem (hc : c ∉ special) : escapeChar c = [c] := by
  simp only [special, List.mem_cons, List.not_mem_nil, or_false, not_or] at hc
  obtain ⟨h1, h2, h3, h4, h5⟩ := hc
  unfold escapeChar reference?
  rw [if_neg h1, if_neg h2, if_neg h3, if_neg h4, if_neg h5]
  rfl

/-- An escaped character is an ampersand and characters that need no escaping. -/
theorem escapeChar_of_mem (hc : c ∈ special) :
    ∃ tail, escapeChar c = '&' :: tail ∧ ∀ d ∈ tail, d ∉ special := by
  have hall : special.all (fun c => escapeChar c = '&' :: (escapeChar c).tail ∧
      (escapeChar c).tail.all (· ∉ special)) = true := by decide
  simp only [List.all_eq_true, decide_eq_true_eq] at hall
  exact ⟨_, hall c hc⟩

-- the five references
example : special.map escapeChar = ["&amp;".toList, "&lt;".toList, "&gt;".toList, "&quot;".toList,
    "&#x27;".toList] := by decide

/-- No reference is the start of another one, so a reader of references finds the one that was
written. -/
theorem readReference?_escapeChar_append (hc : c ∈ special) :
    readReference? (escapeChar c ++ r) = some (c, r) := by
  simp only [special, List.mem_cons, List.not_mem_nil, or_false] at hc
  rcases hc with rfl | rfl | rfl | rfl | rfl
  · rfl
  · rfl
  · rfl
  · rfl
  · rfl

theorem readReference?_cons_of_ne (hc : c ≠ '&') : readReference? (c :: r) = none := by
  unfold readReference?
  rw [List.findSome?_eq_none_iff]
  intro d hd
  obtain ⟨tail, hd, -⟩ := escapeChar_of_mem hd
  rw [hd, Option.map_eq_none_iff, List.isPrefixOf?]
  have hne : ('&' == c) = false := by simpa using Ne.symm hc
  rw [hne]
  rfl

/-! ## Decoding what was escaped -/

/-- What a reference has taken is skipped, and decoding goes on behind it. -/
theorem decodeFrom_length_append (a r : List Char) :
    decodeFrom a.length (a ++ r) = decode r := by
  induction a with
  | nil => rfl
  | cons d b ih => exact ih

/-- A character that begins no reference stands for itself. -/
theorem decode_cons_of_readReference?_eq_none (h : readReference? (c :: r) = none) :
    decode (c :: r) = c :: decode r := by
  show decodeFrom 0 (c :: r) = c :: decodeFrom 0 r
  rw [decodeFrom]
  split
  · next heq => rw [h] at heq; cases heq
  · rfl

/-- An escaped character is decoded to itself, whatever follows. -/
theorem decode_escapeChar_append (c : Char) (r : List Char) :
    decode (escapeChar c ++ r) = c :: decode r := by
  by_cases hc : c ∈ special
  · have hread := readReference?_escapeChar_append (r := r) hc
    obtain ⟨tail, htail, -⟩ := escapeChar_of_mem hc
    rw [htail, List.cons_append] at hread ⊢
    -- the decoder stands at the ampersand and finds the reference that was written there
    show decodeFrom 0 ('&' :: (tail ++ r)) = _
    rw [decodeFrom]
    split
    · next d rest heq =>
      rw [hread] at heq
      cases heq
      -- what is skipped is the reference without its ampersand
      have hlen : (tail ++ r).length - r.length = tail.length := by
        rw [List.length_append]
        omega
      rw [hlen, decodeFrom_length_append]
    · next heq => rw [hread] at heq; cases heq
  · have hne : c ≠ '&' := by
      intro h
      exact hc (h ▸ by decide)
    rw [escapeChar_of_not_mem hc, List.singleton_append,
      decode_cons_of_readReference?_eq_none (readReference?_cons_of_ne hne)]

/-- Decoding gives back what was escaped, and goes on behind it. -/
theorem decode_escape_append (s t : List Char) : decode (escape s ++ t) = s ++ decode t := by
  induction s with
  | nil => rfl
  | cons c r ih =>
    rw [show escape (c :: r) = escapeChar c ++ escape r from rfl, List.append_assoc,
      decode_escapeChar_append, ih, List.cons_append]

/-- Decoding undoes escaping. -/
theorem decode_escape (s : List Char) : decode (escape s) = s := by
  have h := decode_escape_append s []
  rw [List.append_nil] at h
  rw [h, show decode [] = [] from rfl, List.append_nil]

/-! ## What escaping can give -/

/-- Whether `t` can stand in a quoted attribute: of the characters that have a reference it holds
only ampersands, and each of them begins a reference. -/
structure Written (t : List Char) : Prop where
  not_mem : ∀ c ∈ t, c ≠ '<' ∧ c ≠ '>' ∧ c ≠ '"' ∧ c ≠ '\''
  reference : ∀ r, '&' :: r <:+ t → ∃ c ∈ special, escapeChar c <+: '&' :: r

theorem written_nil : Written [] where
  not_mem := by simp
  reference := by simp

theorem Written.cons (ht : Written t) (hc : c ∉ special) : Written (c :: t) := by
  simp only [special, List.mem_cons, List.not_mem_nil, or_false, not_or] at hc
  obtain ⟨hamp, hother⟩ := hc
  refine ⟨List.forall_mem_cons.mpr ⟨hother, ht.not_mem⟩, ?_⟩
  intro r hr
  rcases List.suffix_cons_iff.mp hr with heq | hr
  · exact absurd (List.cons.inj heq).1.symm hamp
  · exact ht.reference r hr

theorem Written.append (ht : Written t) {a : List Char} (ha : ∀ d ∈ a, d ∉ special) :
    Written (a ++ t) := by
  induction a with
  | nil => exact ht
  | cons d b ih =>
    obtain ⟨hd, hb⟩ := List.forall_mem_cons.mp ha
    exact (ih hb).cons hd

/-- A reference may stand anywhere. Its ampersand begins it, and no other character of it is an
ampersand that would have to begin one too. -/
theorem Written.reference_append (ht : Written t) (hc : c ∈ special) :
    Written (escapeChar c ++ t) := by
  obtain ⟨tail, htail, hplain⟩ := escapeChar_of_mem hc
  have hrest : Written (tail ++ t) := ht.append hplain
  rw [htail, List.cons_append]
  refine ⟨List.forall_mem_cons.mpr ⟨by decide, hrest.not_mem⟩, ?_⟩
  intro r hr
  rcases List.suffix_cons_iff.mp hr with heq | hr
  · refine ⟨c, hc, ?_⟩
    rw [heq, htail]
    exact ⟨t, rfl⟩
  · exact hrest.reference r hr

/-- An escaped text may stand in an attribute. -/
theorem written_escape (s : List Char) : Written (escape s) := by
  induction s with
  | nil => exact written_nil
  | cons c r ih =>
    show Written (escapeChar c ++ escape r)
    by_cases hc : c ∈ special
    · exact ih.reference_append hc
    · rw [escapeChar_of_not_mem hc]
      exact ih.cons hc

/-! ## The attribute text -/

/-- Escaping leaves a text alone in which nothing is to be escaped. -/
theorem escape_eq_self (hs : ∀ c ∈ s, c ∉ special) : escape s = s := by
  induction s with
  | nil => rfl
  | cons c r ih =>
    obtain ⟨hc, hr⟩ := List.forall_mem_cons.mp hs
    rw [show escape (c :: r) = escapeChar c ++ escape r from rfl, escapeChar_of_not_mem hc, ih hr]
    rfl

/-- A text that is handed over as it is needs no reference, so both ways of writing it agree. -/
theorem toList_escapeAttribute (text : String) :
    (escapeAttribute text).toList = escape text.toList := by
  unfold escapeAttribute escaped?
  split
  · exact String.toList_ofList
  · next hnone =>
    have hplain : ∀ c ∈ text.toList, c ∉ special := by simpa using hnone
    exact (escape_eq_self hplain).symm

end LinkGate.Html
