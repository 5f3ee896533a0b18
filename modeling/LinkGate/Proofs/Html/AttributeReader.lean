import LinkGate.Proofs.Html.Escape
import LinkGate.Proofs.Url.Sanitized

/-!
# Reading an attribute back

`readHref?` is the other side of `hrefAttribute`: it takes the opening of the attribute, everything
up to the next quote as the raw value, and the quote, and decodes the raw value. It knows nothing
of how the attribute was written. Reading what was written for a value gives that value and leaves
the text behind the attribute untouched, whatever that text is (`readHref?_hrefAttribute`): the raw
value has no quote in it, so the first quote is the closing one.
-/

namespace LinkGate.Html

def hrefOpening : List Char := "href=\"".toList

/-- An attribute as a reader finds it: the value as it is written, the value that is meant, and
what follows the closing quote. -/
structure ReadAttribute where
  raw : List Char
  value : List Char
  rest : List Char
  deriving DecidableEq

def readHref? (s : List Char) : Option ReadAttribute :=
  match hrefOpening.isPrefixOf? s with
  | none => none
  | some body =>
    match body.dropWhile (· != '"') with
    | [] => none
    | _ :: rest =>
      let raw := body.takeWhile (· != '"')
      some ⟨raw, decode raw, rest⟩

/-- The reader of attributes takes the value up to the first quotation mark, and decodes it. -/
theorem readHref?_append {raw rest : List Char} (hraw : ∀ c ∈ raw, c ≠ '"') :
    readHref? (hrefOpening ++ (raw ++ '"' :: rest)) = some ⟨raw, decode raw, rest⟩ := by
  have hrun : ∀ c ∈ raw, (c != '"') = true := by
    intro c hc
    simpa using hraw c hc
  have hend : Text.EndsRun (· != '"') ('"' :: rest) := Text.endsRun_cons.mpr (by decide)
  rw [readHref?, List.isPrefixOf?_eq_some_iff_append_eq.mpr rfl]
  simp only
  rw [Text.dropWhile_append_of_endsRun hrun hend, Text.takeWhile_append_of_endsRun hrun hend]

/-- What is written for a value is read as that value, and nothing behind it is touched. -/
theorem readHref?_hrefAttribute (value rest : String) :
    readHref? (hrefAttribute value ++ rest).toList
      = some ⟨escape value.toList, value.toList, rest.toList⟩ := by
  have htext : (hrefAttribute value ++ rest).toList
      = hrefOpening ++ (escape value.toList ++ '"' :: rest.toList) := by
    rw [hrefAttribute, String.toList_append, String.toList_append, String.toList_append,
      toList_escapeAttribute, List.append_assoc, List.append_assoc]
    rfl
  have hquote : ∀ c ∈ escape value.toList, c ≠ '"' := by
    intro c hc
    exact ((written_escape value.toList).not_mem c hc).2.2.1
  rw [htext, readHref?_append hquote, decode_escape]

/-- **No text breaks out of the attribute.** Whatever text was sanitized and whatever follows the
attribute, a reader takes exactly the sanitized value and leaves exactly what follows. The raw
value holds none of the characters that end or open markup, and each of its ampersands begins one
of the five references. The value is the text itself if that is safe, and else the placeholder. -/
theorem readHref?_toHref_sanitize (url rest : String) :
    ∃ raw, readHref? ((Url.sanitize url).toHref ++ rest).toList
        = some ⟨raw, (Url.sanitize url).value.toList, rest.toList⟩ ∧
      Written raw ∧
      ((Url.isSafe url = true ∧ (Url.sanitize url).value = url) ∨
        (Url.isSafe url = false ∧ (Url.sanitize url).value = Url.placeholder)) := by
  refine ⟨escape (Url.sanitize url).value.toList, ?_, written_escape _, ?_⟩
  · exact readHref?_hrefAttribute (Url.sanitize url).value rest
  · by_cases h : Url.isSafe url = true
    · exact .inl ⟨h, Url.sanitize_of_isSafe h⟩
    · exact .inr ⟨by simpa using h, Url.value_sanitize_of_not_isSafe h⟩

-- what looks like a reference in the text is not taken for one
example : readHref? ((Url.sanitize "&lt;'").toHref ++ ">").toList
    = some ⟨"&amp;lt;&#x27;".toList, "&lt;'".toList, ">".toList⟩ := by decide

end LinkGate.Html
