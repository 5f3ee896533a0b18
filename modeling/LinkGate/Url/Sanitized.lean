import LinkGate.Html.Attribute
import LinkGate.Text.Utf8
import LinkGate.Url.Verdict

/-!
Sanitized URLs: values that are safe in a hyperlink by their type. A URL that is refused is
replaced by a placeholder, which leads nowhere. The placeholder is itself refused, so it stands for
refused URLs only.
-/

namespace LinkGate

namespace Url

/-- The URL that replaces refused ones. A browser takes it for a document that does not exist. -/
def placeholder : String := "about:invalid#zGoSafez"

end Url

/-- A URL that is safe or is the placeholder. -/
structure SanitizedUrl where
  value : String
  safe_or_placeholder : Url.isSafe value = true ∨ value = Url.placeholder

namespace SanitizedUrl

@[ext] theorem ext {u v : SanitizedUrl} (h : u.value = v.value) : u = v := by
  cases u; cases v; cases h; rfl

instance : DecidableEq SanitizedUrl := fun u v =>
  if h : u.value = v.value then isTrue (ext h) else isFalse (h ∘ congrArg value)

instance : Repr SanitizedUrl := ⟨fun u n => reprPrec u.value n⟩

def innocuous : SanitizedUrl := ⟨Url.placeholder, .inr rfl⟩

def isInnocuous (u : SanitizedUrl) : Bool :=
  u.value == Url.placeholder

/-- The attribute `href` that links to the URL. -/
def toHref (u : SanitizedUrl) : String :=
  Html.hrefAttribute u.value

/-- Sanitized URLs are ordered by their characters' code points, which is also the order of their
bytes in UTF-8. -/
instance : LE SanitizedUrl := ⟨fun u v => u.value ≤ v.value⟩

instance (u v : SanitizedUrl) : Decidable (u ≤ v) :=
  inferInstanceAs (Decidable (u.value ≤ v.value))

/-- How two sanitized URLs compare, by their bytes in UTF-8. -/
instance : Ord SanitizedUrl :=
  ⟨fun u v => compare (Text.toBytes u.value) (Text.toBytes v.value)⟩

/-- Hashes a sanitized URL. The hasher is given its bytes, and then a byte that is in no text. -/
def hashInto {σ : Type} (write : σ → List UInt8 → σ) (state : σ) (u : SanitizedUrl) : σ :=
  write (write state (Text.toBytes u.value)) [0xFF]

def sort (urls : List SanitizedUrl) : List SanitizedUrl :=
  urls.mergeSort fun u v => decide (u ≤ v)

def countDistinct (urls : List SanitizedUrl) : Nat :=
  urls.eraseDups.length

end SanitizedUrl

namespace Url

/-- The URL itself if it is safe, and else the placeholder. -/
def sanitize (url : String) : SanitizedUrl :=
  if h : isSafe url = true then ⟨url, .inl h⟩ else .innocuous

theorem sanitize_of_isSafe {url : String} (h : isSafe url = true) :
    (sanitize url).value = url := by
  simp [sanitize, h]

theorem sanitize_of_not_isSafe {url : String} (h : ¬ isSafe url = true) :
    sanitize url = .innocuous := by
  simp [sanitize, h]

/-- The sanitized URL together with the verdict that decided on it. -/
def sanitizeWithVerdict (url : String) : SanitizedUrl × Verdict :=
  (sanitize url, classify url)

end Url

end LinkGate
