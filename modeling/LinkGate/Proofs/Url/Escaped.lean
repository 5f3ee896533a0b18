import LinkGate.Proofs.Html.Codec
import LinkGate.Proofs.Url.Appending

/-!
# The verdict on escaped text

A URL is judged before it is escaped, and the other order would not do: the reference of the
apostrophe has a number sign in it, which ends the part of a URL that can be a scheme. This is the
only way in which escaping moves a verdict (`verdict_escaped`).

* **`scheme?_escape`**: the other references have no delimiter in them. So without an apostrophe
  before the first delimiter that delimiter stays the first, and the scheme is escaped with the
  rest.
* **`scheme?_escape_of_apostropheFirst`**: with one, a number sign comes first, and there is no
  scheme any more.
* **`escape_eq_self_of_lower`**, **`escape_eq_self_of_lower_escape`**: what is accepted for its
  scheme or as a data URL has nothing to escape. That holds of the URL, and also of the escaped
  text, because each reference begins with an ampersand.
-/

namespace LinkGate.Url

open Html Text

variable {s k : List Char} {url : String}

/-! ## References and delimiters -/

theorem escapeChar_of_isDelimiter {c : Char} (hc : isDelimiter c = true) : escapeChar c = [c] := by
  have hall : special.all (!isDelimiter ·) = true := by decide
  apply escapeChar_of_not_mem
  intro hmem
  have hnot := List.all_eq_true.mp hall c hmem
  rw [hc] at hnot
  cases hnot

/-- Of the five references only the one of the apostrophe has a delimiter in it. -/
theorem isDelimiter_of_mem_escapeChar {c d : Char} (hc : isDelimiter c = false) (hne : c ≠ '\'')
    (hd : d ∈ escapeChar c) : isDelimiter d = false := by
  by_cases hmem : c ∈ special
  · have hall : special.all (fun c => c == '\'' || (escapeChar c).all (!isDelimiter ·)) = true := by
      decide
    have hreference := List.all_eq_true.mp hall c hmem
    rw [beq_false_of_ne hne, Bool.false_or] at hreference
    simpa using List.all_eq_true.mp hreference d hd
  · rw [escapeChar_of_not_mem hmem] at hd
    rw [List.mem_singleton.mp hd, hc]

/-- Of the references only that of the apostrophe has a delimiter in it. -/
theorem isDelimiter_of_mem_escape (hk : ∀ c ∈ k, isDelimiter c = false) (hne : '\'' ∉ k) :
    ∀ d ∈ escape k, isDelimiter d = false := by
  intro d hd
  obtain ⟨c, hc, hmem⟩ := List.mem_flatMap.mp hd
  have hc' : c ≠ '\'' := by
    rintro rfl
    exact hne hc
  exact isDelimiter_of_mem_escapeChar (hk c hc) hc' hmem

/-! ## The scheme of escaped text -/

/-- An apostrophe stands in the text, and no delimiter stands before it. -/
def ApostropheFirst (s : List Char) : Prop :=
  ∃ k r, s = k ++ '\'' :: r ∧ ∀ c ∈ k, isDelimiter c = false

theorem apostropheFirst_iff : ApostropheFirst s ↔ '\'' ∈ head s := by
  constructor
  · rintro ⟨k, r, rfl, hk⟩
    have hrun : ∀ c ∈ k, (!isDelimiter c) = true := by simpa using hk
    rw [head, List.takeWhile_append_of_pos hrun, List.takeWhile_cons_of_pos (by decide)]
    simp
  · intro h
    obtain ⟨k, r, hhead⟩ := List.append_of_mem h
    refine ⟨k, r ++ afterHead s, ?_, fun c hc => ?_⟩
    · conv => lhs; rw [← head_append_afterHead s, hhead]
      rw [List.append_assoc, List.cons_append]
    · apply isDelimiter_head s
      rw [hhead]
      exact List.mem_append_left _ hc

/-- Without an apostrophe before the first delimiter that one stays the first. -/
theorem scheme?_escape (h : ¬ ApostropheFirst s) : scheme? (escape s) = (scheme? s).map escape := by
  have hhead := isDelimiter_head s
  have hescaped := isDelimiter_of_mem_escape hhead (mt apostropheFirst_iff.mpr h)
  rcases head_cases s with hs | ⟨c, r, hc, hs⟩
  · rw [← hs] at hhead hescaped
    rw [scheme?_eq_none_of_forall hhead, scheme?_eq_none_of_forall hescaped]
    rfl
  · have hcut : escape s = escape (head s) ++ c :: escape r := by
      conv => lhs; rw [hs, escape_append]
      show escape (head s) ++ (escapeChar c ++ escape r) = _
      rw [escapeChar_of_isDelimiter hc]
      rfl
    have hscheme : scheme? s = if c = ':' then some (head s) else none := by
      conv => lhs; rw [hs]
      exact scheme?_append_delimiter hhead hc
    rw [hcut, scheme?_append_delimiter hescaped hc, hscheme]
    split <;> rfl

/-- With one, the number sign of its reference comes first. -/
theorem ApostropheFirst.escape_eq (h : ApostropheFirst s) :
    ∃ k r, escape s = k ++ "&#x27;".toList ++ r ∧ ∀ c ∈ k, isDelimiter c = false := by
  -- of several apostrophes before the first delimiter the first one counts
  obtain ⟨k, r, hhead, hne⟩ := List.eq_append_cons_of_mem (apostropheFirst_iff.mp h)
  have hk : ∀ c ∈ k, isDelimiter c = false := by
    intro c hc
    apply isDelimiter_head s
    rw [hhead]
    exact List.mem_append_left _ hc
  refine ⟨escape k, escape r ++ escape (afterHead s), ?_, isDelimiter_of_mem_escape hk hne⟩
  have hcut : s = k ++ (['\''] ++ (r ++ afterHead s)) := by
    conv => lhs; rw [← head_append_afterHead s, hhead]
    simp
  conv => lhs; rw [hcut]
  rw [escape_append, escape_append, escape_append, List.append_assoc]
  rfl

/-- The number sign of the reference comes before every other delimiter. -/
theorem scheme?_escape_of_apostropheFirst (h : ApostropheFirst s) : scheme? (escape s) = none := by
  obtain ⟨k, r, hs, hk⟩ := h.escape_eq
  have hcut : escape s = (k ++ ['&']) ++ '#' :: ("x27;".toList ++ r) := by
    rw [hs]
    simp
  have hbefore : ∀ c ∈ k ++ ['&'], isDelimiter c = false := by
    rw [List.forall_mem_append, List.forall_mem_singleton]
    exact ⟨hk, by decide⟩
  rw [hcut, scheme?_append_delimiter hbefore (by decide), if_neg (by decide)]

/-! ## Accepted text has nothing to escape -/

theorem toLower_mem_special_iff {c : Char} : c.toLower ∈ special ↔ c ∈ special := by
  have hsame : ∀ d ∈ special, c.toLower = d ↔ c = d := by
    have hall : special.all (!·.isAlpha) = true := by decide
    intro d hd
    exact toLower_eq_iff (by simpa using List.all_eq_true.mp hall d hd)
  constructor
  · intro hmem
    rw [(hsame _ hmem).mp rfl]
    exact hmem
  · intro hmem
    rw [(hsame c hmem).mpr rfl]
    exact hmem

/-- A text has nothing to escape if its lower case has nothing. -/
theorem escape_eq_self_of_lower (h : ∀ c ∈ lower s, c ∉ special) : escape s = s := by
  apply escape_eq_self
  intro c hc hmem
  exact h c.toLower (List.mem_map_of_mem hc) (toLower_mem_special_iff.mpr hmem)

/-- Nor has it if the lower case of the escaped text has nothing, as a reference has an ampersand.
-/
theorem escape_eq_self_of_lower_escape (h : ∀ c ∈ lower (escape s), c ∉ special) :
    escape s = s := by
  apply escape_eq_self
  intro c hc hmem
  -- a reference would have left its ampersand
  obtain ⟨tail, htail, -⟩ := escapeChar_of_mem hmem
  have hampersand : '&' ∈ escape s :=
    List.mem_flatMap.mpr ⟨c, hc, by rw [htail]; exact List.mem_cons_self⟩
  exact h _ (List.mem_map_of_mem hampersand) (by decide)

theorem not_mem_special_of_mem_allowedSchemes (hk : k ∈ allowedSchemes) :
    ∀ c ∈ k, c ∉ special := by
  have hall : allowedSchemes.all (·.all (· ∉ special)) = true := by decide
  simp only [List.all_eq_true, decide_eq_true_eq] at hall
  exact hall k hk

/-- A data URL of an allowed type has none of the five characters. -/
theorem not_mem_special_of_mem_render {d : DataUrl} (hd : d.WellFormed)
    (htype : d.mediaType ∈ allowedMediaTypes) : ∀ c ∈ d.render, c ∉ special := by
  obtain ⟨-, -, hpayload, hpadding⟩ := hd
  have htypes : allowedMediaTypes.all (·.all (· ∉ special)) = true := by decide
  have hframe : (DataUrl.opening ++ DataUrl.separator).all (· ∉ special) = true := by decide
  have hdigits : special.all (!DataUrl.isDigit ·) = true := by decide
  simp only [List.all_eq_true, decide_eq_true_eq, List.forall_mem_append] at htypes hframe
  simp only [DataUrl.render, List.forall_mem_append]
  refine ⟨⟨⟨⟨hframe.1, htypes _ htype⟩, hframe.2⟩, fun c hc hmem => ?_⟩, fun c hc => ?_⟩
  · have hnot := List.all_eq_true.mp hdigits c hmem
    rw [hpayload c hc] at hnot
    cases hnot
  · have hequals : c = '=' := by simpa [DataUrl.isPadding] using hpadding c hc
    rw [hequals]
    decide

/-! ## The verdict -/

/-- Without an apostrophe in front of the first delimiter, what is accepted before or after escaping
is the same text. -/
theorem judge_lower_escape_iff (h : ¬ ApostropheFirst s) :
    judge (lower (escape s)) = .safe ↔ judge (lower s) = .safe := by
  have hscheme := scheme?_escape h
  cases hs : scheme? s with
  | none =>
    have hbefore : scheme? (lower s) = none := by rw [scheme?_lower, hs]; rfl
    have hafter : scheme? (lower (escape s)) = none := by rw [scheme?_lower, hscheme, hs]; rfl
    simp only [judge_of_scheme?_eq_none hbefore, judge_of_scheme?_eq_none hafter]
  | some k =>
    have hbefore : scheme? (lower s) = some (lower k) := by rw [scheme?_lower, hs]; rfl
    have hafter : scheme? (lower (escape s)) = some (lower (escape k)) := by
      rw [scheme?_lower, hscheme, hs]
      rfl
    constructor
    · intro hsafe
      rcases judge_eq_safe_iff.mp hsafe with hall | ⟨d, hd, htype, hparts⟩
      · have hallowed := hall _ hafter
        rw [escape_eq_self_of_lower_escape (not_mem_special_of_mem_allowedSchemes hallowed)]
          at hallowed
        exact judge_of_mem_allowedSchemes hbefore hallowed
      · have hplain := not_mem_special_of_mem_render hd htype
        rw [← hparts] at hplain
        rwa [escape_eq_self_of_lower_escape hplain] at hsafe
    · intro hsafe
      rcases judge_eq_safe_iff.mp hsafe with hall | ⟨d, hd, htype, hparts⟩
      · have hallowed := hall _ hbefore
        apply judge_of_mem_allowedSchemes hafter
        rwa [escape_eq_self_of_lower (not_mem_special_of_mem_allowedSchemes hallowed)]
      · have hplain := not_mem_special_of_mem_render hd htype
        rw [← hparts] at hplain
        rwa [escape_eq_self_of_lower hplain]

/-- An escaped URL is safe if the URL was, or if an apostrophe stands before its first delimiter. -/
theorem isSafe_escapeAttribute_iff (url : String) : isSafe (escapeAttribute url) = true ↔
    isSafe url = true ∨ ApostropheFirst url.toList := by
  rw [isSafe_iff, isSafe_iff, toList_escapeAttribute]
  by_cases h : ApostropheFirst url.toList
  · have hnone : scheme? (lower (escape url.toList)) = none := by
      rw [scheme?_lower, scheme?_escape_of_apostropheFirst h]
      rfl
    simp only [judge_of_scheme?_eq_none hnone, h, or_true]
  · rw [judge_lower_escape_iff h]
    simp only [h, or_false]

/-- The head of a URL with a scheme ends at a colon. -/
theorem apostropheFirst_iff_of_scheme? (h : scheme? s = some k) :
    ApostropheFirst s ↔ '\'' ∈ s.takeWhile (· != ':') := by
  obtain ⟨hk, r, hs⟩ := scheme?_eq_some_iff.mp h
  have hhead : head s = k := by
    rw [hs]
    exact head_append hk (endsRun_cons.mpr (by decide))
  rw [apostropheFirst_iff, hhead, takeWhile_eq_scheme h]

/-- A URL that is refused has a scheme. -/
theorem exists_scheme?_of_not_isSafe (h : ¬ isSafe url = true) :
    ∃ k, scheme? url.toList = some k := by
  cases hs : scheme? url.toList with
  | some k => exact ⟨k, rfl⟩
  | none =>
    refine absurd (isSafe_iff.mpr (judge_of_scheme?_eq_none ?_)) h
    rw [scheme?_lower, hs]
    rfl

/-- No apostrophe comes first in a text that begins with a scheme without one. -/
theorem not_apostropheFirst_of_beginsWith (hk : '\'' ∉ k) (hd : ∀ c ∈ k, isDelimiter c = false)
    (h : BeginsWith k s) : ¬ ApostropheFirst s := by
  have hlower := scheme?_lower_of_beginsWith hd h
  rw [scheme?_lower] at hlower
  obtain ⟨k', hs, rfl⟩ := Option.map_eq_some_iff.mp hlower
  rw [apostropheFirst_iff_of_scheme? hs, takeWhile_eq_scheme hs]
  intro hmem
  exact hk (List.mem_map_of_mem (f := Char.toLower) hmem)

/-- How escaping moves the verdict on a URL. -/
structure EscapedVerdict (url : String) : Prop where
  isSafe_iff : isSafe (escapeAttribute url) = true ↔
    isSafe url = true ∨ ApostropheFirst url.toList
  keeps_safe : isSafe url = true → isSafe (escapeAttribute url) = true
  /-- A refused URL gets past the gate by an apostrophe before its first colon, and only so. -/
  smuggled_iff : isSafe url = false →
    (isSafe (escapeAttribute url) = true ↔ '\'' ∈ url.toList.takeWhile (· != ':'))
  /-- The number sign of the reference is then the first delimiter. -/
  reference : ApostropheFirst url.toList → ∃ k r, (escapeAttribute url).toList
    = k ++ "&#x27;".toList ++ r ∧ ∀ c ∈ k, isDelimiter c = false
  data : BeginsWith dataScheme url.toList → isSafe (escapeAttribute url) = isSafe url

/-- **Escaping and the gate do not commute, and exactly how.** The escaped text is accepted if and
only if the URL is, or an apostrophe stands before its first delimiter. -/
theorem verdict_escaped (url : String) : EscapedVerdict url where
  isSafe_iff := isSafe_escapeAttribute_iff url
  keeps_safe h := (isSafe_escapeAttribute_iff url).mpr (.inl h)
  smuggled_iff h := by
    have hrefused : ¬ isSafe url = true := by simp [h]
    obtain ⟨k, hk⟩ := exists_scheme?_of_not_isSafe hrefused
    rw [isSafe_escapeAttribute_iff, apostropheFirst_iff_of_scheme? hk]
    exact or_iff_right hrefused
  reference h := by
    rw [toList_escapeAttribute]
    exact h.escape_eq
  data h := by
    have hnot : ¬ ApostropheFirst url.toList :=
      not_apostropheFirst_of_beginsWith (by decide) isDelimiter_of_mem_dataScheme h
    rw [Bool.eq_iff_iff, isSafe_escapeAttribute_iff]
    exact or_iff_left hnot

/-- The apostrophe is in the scheme, so the escaped text has none. -/
example : isSafe "java'script:alert(1)" = false ∧
    isSafe (escapeAttribute "java'script:alert(1)") = true ∧
    isSafe (escapeAttribute "data:image/png&base64,AA") = false := by decide

end LinkGate.Url
