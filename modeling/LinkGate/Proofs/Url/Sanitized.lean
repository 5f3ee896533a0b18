import LinkGate.Url.Sanitized

/-!
# Sanitized URLs and the placeholder

The placeholder is refused like any other URL with the scheme `about`. So it never stands for
itself: a sanitized URL holds the placeholder exactly if the text it came from was refused, and
sanitizing a second time changes nothing although what is sanitized then need not be safe.
-/

namespace LinkGate

open Url

variable {url : String}

namespace Url

/-- The placeholder is refused itself. -/
theorem isSafe_placeholder : isSafe placeholder = false := by decide

theorem isSafe_eq_true_iff : isSafe url = true ↔ classify url = .safe := by
  unfold isSafe
  cases classify url with
  | safe => simp [Verdict.isSafe]
  | refused reason => simp [Verdict.isSafe]

/-- A safe text is never the placeholder. -/
theorem ne_placeholder_of_isSafe (h : isSafe url = true) : url ≠ placeholder := by
  intro heq
  rw [heq, isSafe_placeholder] at h
  cases h

/-- A refused URL is replaced. -/
theorem value_sanitize_of_not_isSafe (h : ¬ isSafe url = true) :
    (sanitize url).value = placeholder := by
  rw [sanitize_of_not_isSafe h]
  rfl

/-- A URL is replaced only if it is refused, because the placeholder is no safe URL. -/
theorem value_sanitize_eq_placeholder_iff_not_isSafe :
    (sanitize url).value = placeholder ↔ ¬ isSafe url = true := by
  refine ⟨fun heq hsafe => ?_, value_sanitize_of_not_isSafe⟩
  rw [sanitize_of_isSafe hsafe] at heq
  exact ne_placeholder_of_isSafe hsafe heq

/-- Sanitizing keeps safe texts and the placeholder, and changes all others. -/
theorem value_sanitize_eq_self_iff :
    (sanitize url).value = url ↔ isSafe url = true ∨ url = placeholder := by
  by_cases h : isSafe url = true
  · exact ⟨fun _ => .inl h, fun _ => sanitize_of_isSafe h⟩
  · rw [value_sanitize_of_not_isSafe h]
    exact ⟨fun heq => .inr heq.symm, fun hor => (hor.resolve_left h).symm⟩

end Url

namespace SanitizedUrl

theorem isInnocuous_iff {u : SanitizedUrl} : u.isInnocuous = true ↔ u.value = placeholder := by
  rw [isInnocuous, beq_iff_eq]

/-- The value is replaced exactly if the text is refused. -/
theorem isInnocuous_sanitize_iff : (sanitize url).isInnocuous = true ↔ ¬ isSafe url = true :=
  isInnocuous_iff.trans value_sanitize_eq_placeholder_iff_not_isSafe

/-- A sanitized URL is safe and is not the placeholder, or it is the placeholder and is not
safe. -/
theorem safe_or_innocuous (u : SanitizedUrl) :
    (isSafe u.value = true ∧ u.isInnocuous = false) ∨ (u = innocuous ∧ isSafe u.value = false) := by
  rcases u.safe_or_placeholder with hsafe | hplaceholder
  · refine .inl ⟨hsafe, ?_⟩
    rw [← Bool.not_eq_true, isInnocuous_iff]
    exact ne_placeholder_of_isSafe hsafe
  · exact .inr ⟨ext hplaceholder, by rw [hplaceholder, isSafe_placeholder]⟩

/-- Sanitizing again changes nothing. -/
theorem sanitize_value (u : SanitizedUrl) : sanitize u.value = u := by
  rcases u.safe_or_innocuous with ⟨hsafe, -⟩ | ⟨hu, hrefused⟩
  · exact ext (sanitize_of_isSafe hsafe)
  · rw [sanitize_of_not_isSafe (by simp [hrefused]), hu]

end SanitizedUrl

end LinkGate
