import LinkGate.Proofs.Html.Escape

/-!
# Written texts and what they stand for

`decode` undoes `escape` on every text (`decode_escape`). Here is the other direction: on the texts
that can stand in an attribute, and on no others, `escape` undoes `decode`. So escaping is
one-to-one onto the texts that `Written` describes.

* **`Written.exists_escapeChar_append`**: a written text begins with what stands for one character,
  and the rest of it is written again. Induction on the length goes from there to the whole text.
* **`escape_eq_self_iff`**: a reference is longer than what it stands for. So escaping changes every
  text that it has anything to do with, and a text is handed over as it is exactly if it stays as it
  is.
-/

namespace LinkGate.Html

variable {s t r : List Char} {c : Char}

/-! ## Every written text is escaped -/

/-- The end of a text that may stand in an attribute may stand there by itself. -/
theorem Written.of_suffix (ht : Written t) (hr : r <:+ t) : Written r where
  not_mem c hc := ht.not_mem c (hr.subset hc)
  reference r' hr' := ht.reference r' (hr'.trans hr)

/-- A text that may stand in an attribute, and is not empty, begins with an escaped character. -/
theorem Written.exists_escapeChar_append (ht : Written t) (hne : t ≠ []) :
    ∃ c r, t = escapeChar c ++ r ∧ Written r := by
  cases t with
  | nil => exact absurd rfl hne
  | cons c r =>
    by_cases hc : c = '&'
    · -- the ampersand begins a reference, which is taken as a whole
      subst hc
      obtain ⟨d, -, rest, hrest⟩ := ht.reference r (List.suffix_refl _)
      exact ⟨d, rest, hrest.symm, ht.of_suffix ⟨escapeChar d, hrest⟩⟩
    · have hspecial : c ∉ special := by
        obtain ⟨hlt, hgt, hquote, hapostrophe⟩ := ht.not_mem c List.mem_cons_self
        simp [special, hc, hlt, hgt, hquote, hapostrophe]
      refine ⟨c, r, ?_, ht.of_suffix (List.suffix_cons c r)⟩
      rw [escapeChar_of_not_mem hspecial]
      rfl

theorem length_escapeChar_pos (c : Char) : 0 < (escapeChar c).length := by
  by_cases hc : c ∈ special
  · obtain ⟨tail, htail, -⟩ := escapeChar_of_mem hc
    rw [htail]
    exact Nat.succ_pos _
  · rw [escapeChar_of_not_mem hc]
    exact Nat.one_pos

/-- Induction on the length, because what is taken off is as long as a reference. -/
theorem Written.exists_escape_eq (ht : Written t) : ∃ s, escape s = t := by
  induction hn : t.length using Nat.strong_induction_on generalizing t with
  | h n ih =>
    by_cases hne : t = []
    · exact ⟨[], hne.symm⟩
    · obtain ⟨c, r, rfl, hr⟩ := ht.exists_escapeChar_append hne
      have hshorter : r.length < n := by
        have hpos := length_escapeChar_pos c
        rw [List.length_append] at hn
        omega
      obtain ⟨s, rfl⟩ := ih r.length hshorter hr rfl
      exact ⟨c :: s, rfl⟩

/-- The escaped texts are those that may stand in an attribute. -/
theorem exists_escape_eq_iff : (∃ s, escape s = t) ↔ Written t := by
  refine ⟨?_, Written.exists_escape_eq⟩
  rintro ⟨s, rfl⟩
  exact written_escape s

/-- A written text is what its meaning is written as. -/
theorem escape_decode (ht : Written t) : escape (decode t) = t := by
  obtain ⟨s, rfl⟩ := ht.exists_escape_eq
  rw [decode_escape]

/-! ## Texts that stay as they are -/

theorem one_lt_length_escapeChar (hc : c ∈ special) : 1 < (escapeChar c).length := by
  have hall : special.all (fun c => 1 < (escapeChar c).length) = true := by decide
  simpa using List.all_eq_true.mp hall c hc

/-- Escaping makes no text shorter. -/
theorem length_le_length_escape (s : List Char) : s.length ≤ (escape s).length := by
  induction s with
  | nil => exact Nat.le_refl _
  | cons c r ih =>
    have hpos := length_escapeChar_pos c
    show r.length + 1 ≤ (escapeChar c ++ escape r).length
    rw [List.length_append]
    omega

/-- Escaping leaves just the texts alone in which nothing is to be escaped. -/
theorem escape_eq_self_iff : escape s = s ↔ ∀ c ∈ s, c ∉ special := by
  refine ⟨fun h => ?_, escape_eq_self⟩
  induction s with
  | nil => simp
  | cons c r ih =>
    have hcons : escapeChar c ++ escape r = c :: r := h
    have hlength := congrArg List.length hcons
    have hrest := length_le_length_escape r
    rw [List.length_append, List.length_cons] at hlength
    -- nothing makes up for the length of a reference
    have hc : c ∉ special := by
      intro hmem
      have hlong := one_lt_length_escapeChar hmem
      omega
    rw [escapeChar_of_not_mem hc] at hcons
    rw [List.forall_mem_cons]
    exact ⟨hc, ih (List.cons.inj hcons).2⟩

/-- The text itself is borrowed if escaping would not change it, and only then. -/
theorem escaped?_eq_none_iff (text : String) :
    escaped? text = none ↔ escapeAttribute text = text := by
  have hplain : escaped? text = none ↔ ∀ c ∈ text.toList, c ∉ special := by
    unfold escaped?
    split
    · next hany => simpa using hany
    · next hnone => simpa using hnone
  rw [hplain, ← escape_eq_self_iff, ← toList_escapeAttribute, String.toList_inj]

/-! ## Escaping as a codec -/

/-- **Escaping is a codec onto the written texts.** Each of five characters has its reference, and
decoding gives every text back. What escaping can give are exactly the texts without the five
characters but for ampersands that begin a reference, and such a text is what its decoded form is
escaped to. Escaping goes piece by piece. The text itself is handed over exactly if escaping does
not change it, and either way the result is what escaping character by character gives. -/
theorem escapeAttribute_codec :
    special.map (fun c => (c, String.ofList (escapeChar c)))
        = [('&', "&amp;"), ('<', "&lt;"), ('>', "&gt;"), ('"', "&quot;"), ('\'', "&#x27;")] ∧
      (∀ text : String, decode (escapeAttribute text).toList = text.toList) ∧
      (∀ t : String, (∃ text, escapeAttribute text = t) ↔ Written t.toList) ∧
      (∀ t : String, Written t.toList →
        escapeAttribute (String.ofList (decode t.toList)) = t) ∧
      (∀ text more : String,
        escapeAttribute (text ++ more) = escapeAttribute text ++ escapeAttribute more) ∧
      ∀ text : String, (escaped? text = none ↔ escapeAttribute text = text) ∧
        (escapeAttribute text).toList = text.toList.flatMap escapeChar := by
  refine ⟨by decide, fun text => ?_, fun t => ?_, fun t ht => ?_, fun text more => ?_,
    fun text => ⟨escaped?_eq_none_iff text, toList_escapeAttribute text⟩⟩
  · rw [toList_escapeAttribute, decode_escape]
  · rw [← exists_escape_eq_iff]
    constructor
    · rintro ⟨text, rfl⟩
      exact ⟨text.toList, (toList_escapeAttribute text).symm⟩
    · rintro ⟨s, hs⟩
      refine ⟨String.ofList s, String.toList_inj.mp ?_⟩
      rw [toList_escapeAttribute, String.toList_ofList, hs]
  · rw [← String.toList_inj, toList_escapeAttribute, String.toList_ofList, escape_decode ht]
  · rw [← String.toList_inj, String.toList_append, toList_escapeAttribute, toList_escapeAttribute,
      toList_escapeAttribute, String.toList_append, escape_append]

/-- A reference in the text is escaped once more, and one reference is undone. -/
example : escapeAttribute "&amp;lt;'" = "&amp;amp;lt;&#x27;" ∧
    decode "&amp;amp;lt;&#x27;".toList = "&amp;lt;'".toList := by decide

end LinkGate.Html
