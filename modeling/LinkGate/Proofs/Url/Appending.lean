import LinkGate.Proofs.Url.Verdict

/-!
# Appending text to a URL

Text that is appended to a URL comes after its first delimiter, if it has one. So the scheme stays
what it was, and a verdict that depends on the scheme alone does not move. The verdict on a data URL
depends on the whole text, up to the end.

* **`judge_congr`**: texts of one scheme that is not `data` have one verdict.
* **`scheme?_append`**: a text with a delimiter keeps its scheme.
* **`exists_parse?_render_append_iff`**: a data URL goes on as one with base64 digits, as long as
  there is no padding yet, and then with padding. It keeps its media type.
* **`verdict_append`**: how the verdict moves, for every URL and every text.
-/

namespace LinkGate.Url

open Text

variable {s s' t k : List Char} {url text : String} {scheme : String} {d : DataUrl}

/-! ## The scheme -/

/-- Only the data rule looks behind the scheme. -/
theorem judge_congr (h : scheme? s = scheme? s') (hdata : scheme? s ≠ some dataScheme) :
    judge s = judge s' := by
  cases hs : scheme? s with
  | none =>
    have hs' : scheme? s' = none := h.symm.trans hs
    rw [judge_of_scheme?_eq_none hs, judge_of_scheme?_eq_none hs']
  | some k =>
    have hs' : scheme? s' = some k := h.symm.trans hs
    have hk : k ≠ dataScheme := by
      rintro rfl
      exact hdata hs
    by_cases hallowed : k ∈ allowedSchemes
    · rw [judge_of_mem_allowedSchemes hs hallowed, judge_of_mem_allowedSchemes hs' hallowed]
    · rw [judge_of_other hs hallowed hk, judge_of_other hs' hallowed hk]

/-- Once there is a delimiter, nothing that is appended moves the scheme. -/
theorem scheme?_append (hs : ∃ c ∈ s, isDelimiter c = true) (t : List Char) :
    scheme? (s ++ t) = scheme? s := by
  have hhead := isDelimiter_head s
  rcases head_cases s with hnone | ⟨c, r, hc, hcut⟩
  · -- the head has no delimiter, so it is not the whole text
    obtain ⟨c, hmem, hc⟩ := hs
    rw [hnone] at hmem
    rw [hhead c hmem] at hc
    cases hc
  · have happend : s ++ t = head s ++ c :: (r ++ t) := by
      conv => lhs; rw [hcut]
      rw [List.append_assoc, List.cons_append]
    have hfirst : scheme? s = if c = ':' then some (head s) else none := by
      conv => lhs; rw [hcut]
      exact scheme?_append_delimiter hhead hc
    rw [happend, scheme?_append_delimiter hhead hc, hfirst]

/-- After a slash, a question mark or a number sign no scheme can end any more. -/
theorem scheme?_eq_none_of_relative {c : Char} (hk : ':' ∉ k) (hc : c = '/' ∨ c = '?' ∨ c = '#')
    (t : List Char) : scheme? (k ++ c :: t) = none := by
  have hcolon : ':' ∉ k ++ [c] := by
    intro hmem
    rcases List.mem_append.mp hmem with hbefore | hlast
    · exact hk hbefore
    · rw [← List.mem_singleton.mp hlast] at hc
      revert hc
      decide
  have hstop : scheme? (k ++ [c]) = none := by
    rw [Option.eq_none_iff_forall_ne_some]
    intro k' hscheme
    obtain ⟨-, r, hcut⟩ := scheme?_eq_some_iff.mp hscheme
    exact hcolon (by simp [hcut])
  -- `c` is a delimiter, so the text after it does not matter
  have hdelimiter : ∃ d ∈ k ++ [c], isDelimiter d = true :=
    ⟨c, by simp, isDelimiter_iff.mpr (.inr hc)⟩
  rw [List.append_cons, scheme?_append hdelimiter, hstop]

/-! ## What a data URL may go on with -/

/-- The text `t` is base64 digits, if there is no padding before it, and then padding. -/
def DataUrl.GoesOnWith (d : DataUrl) (t : List Char) : Prop :=
  ∃ digits padding, t = digits ++ padding ∧ (∀ c ∈ digits, isDigit c = true) ∧
    (∀ c ∈ padding, isPadding c = true) ∧ (d.padding ≠ [] → digits = [])

namespace DataUrl

/-- What is appended to a data URL is read as more of its content. -/
theorem parse?_render_append (hd : d.WellFormed) (t : List Char) :
    parse? (d.render ++ t) = ofContent? d.mediaType (d.payload ++ (d.padding ++ t)) := by
  obtain ⟨htype, -, -, -⟩ := hd
  have hcut : d.render ++ t
      = opening ++ (d.mediaType ++ (separator ++ (d.payload ++ (d.padding ++ t)))) := by
    simp only [render_eq, List.append_assoc]
  have hends := endsRun_separator (d.payload ++ (d.padding ++ t))
  rw [parse?, hcut, List.isPrefixOf?_eq_some_iff_append_eq.mpr rfl]
  simp only
  rw [dropWhile_append_of_endsRun htype hends, takeWhile_append_of_endsRun htype hends,
    List.isPrefixOf?_eq_some_iff_append_eq.mpr rfl]

/-- Padding ends the digits for good. -/
theorem goesOnWith_of_append_eq {payload padding : List Char} (hd : d.WellFormed)
    (hpayload : ∀ c ∈ payload, isDigit c = true) (hpadding : ∀ c ∈ padding, isPadding c = true)
    (h : d.payload ++ (d.padding ++ t) = payload ++ padding) : d.GoesOnWith t := by
  obtain ⟨-, -, hdigits, hpad⟩ := hd
  have hends := endsRun_padding hpadding
  cases hfirst : d.padding with
  | nil =>
    -- the payload goes on where it stopped
    rw [hfirst, List.nil_append] at h
    have htake := congrArg (List.takeWhile isDigit) h
    have hdrop := congrArg (List.dropWhile isDigit) h
    rw [List.takeWhile_append_of_pos hdigits, takeWhile_append_of_endsRun hpayload hends] at htake
    rw [List.dropWhile_append_of_pos hdigits, dropWhile_append_of_endsRun hpayload hends] at hdrop
    refine ⟨t.takeWhile isDigit, t.dropWhile isDigit, ?_, fun _ => List.mem_takeWhile_imp, ?_, ?_⟩
    · exact List.takeWhile_append_dropWhile.symm
    · rw [hdrop]
      exact hpadding
    · exact fun hne => absurd hfirst hne
  | cons c rest =>
    have hc : EndsRun isDigit (d.padding ++ t) := by
      have hpadEnds := endsRun_padding hpad
      rw [hfirst] at hpadEnds ⊢
      exact hpadEnds
    have hdrop := congrArg (List.dropWhile isDigit) h
    rw [dropWhile_append_of_endsRun hdigits hc, dropWhile_append_of_endsRun hpayload hends] at hdrop
    refine ⟨[], t, rfl, by simp, fun c hmem => ?_, fun _ => rfl⟩
    apply hpadding
    rw [← hdrop]
    exact List.mem_append_right _ hmem

/-- A data URL with text after it is read if and only if it may go on with that text, and then its
media type is the same. -/
theorem exists_parse?_render_append_iff (hd : d.WellFormed) :
    (∃ e, parse? (d.render ++ t) = some e ∧ e.mediaType = d.mediaType) ↔ d.GoesOnWith t := by
  rw [parse?_render_append hd]
  constructor
  · rintro ⟨e, he, -⟩
    obtain ⟨-, hsplit, -, hpayload, hpadding⟩ := of_ofContent?_eq_some he
    exact goesOnWith_of_append_eq hd hpayload hpadding hsplit
  · rintro ⟨digits, padding, rfl, hdigits, hpadding, hfirst⟩
    obtain ⟨-, hne, hpayload, hpad⟩ := hd
    -- either there is no padding yet, or there are no more digits
    have hsplit : d.payload ++ (d.padding ++ (digits ++ padding))
        = d.payload ++ digits ++ (d.padding ++ padding) := by
      by_cases hnil : d.padding = []
      · simp [hnil]
      · simp [hfirst hnil]
    have hread : ofContent? d.mediaType (d.payload ++ digits ++ (d.padding ++ padding))
        = some ⟨d.mediaType, d.payload ++ digits, d.padding ++ padding⟩ := by
      apply ofContent?_append
      · simp [hne]
      · exact List.forall_mem_append.mpr ⟨hpayload, hdigits⟩
      · exact List.forall_mem_append.mpr ⟨hpad, hpadding⟩
    rw [hsplit, hread]
    exact ⟨_, rfl, rfl⟩

/-- If its payload does not go on with the text, the whole is no data URL. -/
theorem parse?_render_append_eq_none (hd : d.WellFormed) (h : ¬ d.GoesOnWith t) :
    parse? (d.render ++ t) = none := by
  rw [Option.eq_none_iff_forall_ne_some]
  intro e he
  rw [parse?_render_append hd] at he
  obtain ⟨-, hsplit, -, hpayload, hpadding⟩ := of_ofContent?_eq_some he
  exact h (goesOnWith_of_append_eq hd hpayload hpadding hsplit)

/-- The text ends in an equals sign if and only if there is padding. -/
theorem getLast?_render (hd : d.WellFormed) : d.render.getLast? = some '=' ↔ d.padding ≠ [] := by
  obtain ⟨-, hne, hpayload, hpadding⟩ := hd
  have hcut : d.render = (opening ++ d.mediaType ++ separator) ++ (d.payload ++ d.padding) := by
    rw [render, List.append_assoc]
  have hlast : d.render.getLast? = (d.payload ++ d.padding).getLast? := by
    rw [hcut, List.getLast?_append_of_ne_nil _ (by simp [hne])]
  rw [hlast]
  rcases List.eq_nil_or_concat d.padding with hnil | ⟨before, c, hconcat⟩
  · obtain ⟨digits, c, hc⟩ := (List.eq_nil_or_concat d.payload).resolve_left hne
    have hdigit : isDigit c = true := hpayload c (by simp [hc])
    have hc' : c ≠ '=' := by
      rintro rfl
      revert hdigit
      decide
    simp [hnil, hc, hc']
  · have hc : c = '=' := by simpa [isPadding] using hpadding c (by simp [hconcat])
    simp [hconcat, hc]

end DataUrl

/-! ## The verdict on a longer URL -/

/-- A slash, a question mark or a number sign stands in the text, and no colon before it. -/
def Relative (s : List Char) : Prop :=
  ∃ k c r, s = k ++ c :: r ∧ ':' ∉ k ∧ (c = '/' ∨ c = '?' ∨ c = '#')

/-- The text begins with a scheme and its colon, in any letter case. -/
def BeginsWith (scheme s : List Char) : Prop :=
  scheme ++ [':'] <+: lower s

/-- The text is base64 digits in any letter case, or none if padding stands before it, and then
padding. -/
def IsMorePayload (afterPadding : Prop) (t : List Char) : Prop :=
  ∃ digits padding, t = digits ++ padding ∧
    (∀ c ∈ digits, c.isAlphanum = true ∨ c = '+' ∨ c = '/') ∧ (∀ c ∈ padding, c = '=') ∧
      (afterPadding → digits = [])

def throughDelimiter (s : List Char) : List Char :=
  head s ++ (afterHead s).take 1

/-- The scheme is decided by the text up to its first delimiter. -/
theorem scheme?_throughDelimiter (s : List Char) : scheme? (throughDelimiter s) = scheme? s := by
  have hs := head_append_afterHead s
  have hends : EndsRun (!isDelimiter ·) (afterHead s) := endsRun_dropWhile _ s
  unfold throughDelimiter
  cases hafter : afterHead s with
  | nil =>
    rw [hafter] at hs
    rw [List.take_nil, hs]
  | cons c r =>
    rw [hafter, endsRun_cons] at hends
    have hc : isDelimiter c = true := by simpa using hends
    have hcut : s = head s ++ [c] ++ r := by
      rw [List.append_assoc, List.singleton_append, ← hafter, hs]
    conv => rhs; rw [hcut]
    exact (scheme?_append ⟨c, by simp, hc⟩ r).symm

/-- The digits of base64 in lower case come from letters, digits and the two signs. -/
theorem isDigit_toLower (c : Char) :
    DataUrl.isDigit c.toLower = true ↔ c.isAlphanum = true ∨ c = '+' ∨ c = '/' := by
  have hplus : c.toLower = '+' ↔ c = '+' := toLower_eq_iff (by decide)
  have hslash : c.toLower = '/' ↔ c = '/' := toLower_eq_iff (by decide)
  have hlower := toNat_toLower c
  have hclass : (c.toLower.isLower = true ∨ c.toLower.isDigit = true) ↔ c.isAlphanum = true := by
    rw [isLower_iff, isDigit_iff, isAlphanum_iff, hlower]
    split <;> omega
  simp only [DataUrl.isDigit, Bool.or_eq_true, beq_iff_eq, hplus, hslash, hclass, or_assoc]

/-- A text that begins with a scheme has it. -/
theorem scheme?_lower_of_beginsWith (hk : ∀ c ∈ k, isDelimiter c = false) (h : BeginsWith k s) :
    scheme? (lower s) = some k := by
  obtain ⟨r, hr⟩ := h
  exact scheme?_eq_some_iff.mpr ⟨hk, r, by rw [← hr, List.append_assoc, List.singleton_append]⟩

/-- A text that has a scheme begins with it. -/
theorem beginsWith_of_scheme? (h : scheme? (lower s) = some k) : BeginsWith k s := by
  obtain ⟨-, r, hr⟩ := scheme?_eq_some_iff.mp h
  exact ⟨r, by rw [hr, List.append_assoc, List.singleton_append]⟩

theorem BeginsWith.append (h : BeginsWith k s) (t : List Char) : BeginsWith k (s ++ t) := by
  rw [BeginsWith, lower_append]
  exact h.trans (List.prefix_append _ _)

/-- The payload goes on in lower case as it does in any letter case. -/
theorem goesOnWith_lower_iff (hd : d.WellFormed) (hs : lower s = d.render) :
    d.GoesOnWith (lower t) ↔ IsMorePayload (s.getLast? = some '=') t := by
  have hequals : ∀ c : Char, DataUrl.isPadding c.toLower = true ↔ c = '=' := by
    intro c
    rw [DataUrl.isPadding, beq_iff_eq]
    exact toLower_eq_iff (by decide)
  have hlast : s.getLast? = some '=' ↔ d.padding ≠ [] := by
    rw [← DataUrl.getLast?_render hd, ← hs, lower, List.getLast?_map, Option.map_eq_some_iff]
    constructor
    · exact fun h => ⟨'=', h, rfl⟩
    · rintro ⟨c, hc, hlower⟩
      rw [toLower_eq_iff (by decide)] at hlower
      rw [hc, hlower]
  unfold DataUrl.GoesOnWith IsMorePayload
  rw [hlast]
  constructor
  · rintro ⟨digits, padding, hsplit, hdigits, hpadding, hfirst⟩
    obtain ⟨digits', padding', rfl, rfl, rfl⟩ := List.map_eq_append_iff.mp hsplit
    refine ⟨digits', padding', rfl, fun c hc => ?_, fun c hc => ?_, fun hne => ?_⟩
    · exact (isDigit_toLower c).mp (hdigits _ (List.mem_map_of_mem hc))
    · exact (hequals c).mp (hpadding _ (List.mem_map_of_mem hc))
    · exact List.map_eq_nil_iff.mp (hfirst hne)
  · rintro ⟨digits, padding, rfl, hdigits, hpadding, hfirst⟩
    refine ⟨lower digits, lower padding, lower_append _ _, ?_, ?_, fun hne => ?_⟩
    · exact List.forall_mem_map.mpr fun c hc => (isDigit_toLower c).mpr (hdigits c hc)
    · exact List.forall_mem_map.mpr fun c hc => (hequals c).mpr (hpadding c hc)
    · rw [hfirst hne, lower_nil]

theorem classify_append_eq (url text : String) :
    classify (url ++ text) = judge (lower url.toList ++ lower text.toList) := by
  rw [classify, String.toList_append, lower_append]

/-- A delimiter is one in lower case. -/
theorem exists_delimiter_of_scheme? (h : scheme? s = some k) : ∃ c ∈ s, isDelimiter c = true := by
  obtain ⟨-, r, rfl⟩ := scheme?_eq_some_iff.mp h
  exact ⟨':', by simp, by decide⟩

/-- A URL with a scheme keeps it, and unless that is `data` it keeps its verdict. -/
theorem classify_append_of_scheme? (h : scheme? (lower url.toList) = some k)
    (hk : k ≠ dataScheme) (text : String) : classify (url ++ text) = classify url := by
  have hsame : scheme? (lower url.toList ++ lower text.toList) = scheme? (lower url.toList) :=
    scheme?_append (exists_delimiter_of_scheme? h) _
  rw [classify_append_eq, classify]
  apply judge_congr hsame
  rw [hsame, h]
  exact fun hdata => hk (Option.some.inj hdata)

/-- A relative URL stays one. -/
theorem classify_append_of_relative (h : Relative url.toList) (text : String) :
    classify (url ++ text) = .safe := by
  obtain ⟨k, c, r, hurl, hk, hc⟩ := h
  have hscheme : scheme? (url ++ text).toList = none := by
    rw [String.toList_append, hurl, List.append_assoc, List.cons_append]
    exact scheme?_eq_none_of_relative hk hc _
  rw [classify]
  apply judge_of_scheme?_eq_none
  rw [scheme?_lower, hscheme]
  rfl

/-- A URL with an allowed scheme keeps it. -/
theorem classify_append_of_allowed (hk : k ∈ allowedSchemes) (h : BeginsWith k url.toList)
    (text : String) : classify (url ++ text) = .safe := by
  have hscheme := scheme?_lower_of_beginsWith (isDelimiter_of_mem_allowedSchemes hk) h
  have hdata : k ≠ dataScheme := by
    rintro rfl
    revert hk
    decide
  rw [classify_append_of_scheme? hscheme hdata, classify]
  exact judge_of_mem_allowedSchemes hscheme hk

/-- The scheme that is refused by name is the one before the first delimiter. -/
theorem scheme?_of_disallowed (h : classify url = .refused (.disallowedScheme scheme)) :
    scheme? (lower url.toList) = some scheme.toList ∧ scheme.toList ≠ dataScheme := by
  obtain ⟨-, hdata, -⟩ := of_judge_eq_disallowedScheme h
  refine ⟨?_, hdata⟩
  cases judge_eq_iff.mp h with
  | otherScheme hfirst _ _ => rw [hfirst.scheme?_eq, if_pos rfl, String.toList_ofList]

/-- A data URL is never refused for its scheme. -/
theorem judgeData_ne_disallowedScheme (s : List Char) (scheme : String) :
    judgeData s ≠ .refused (.disallowedScheme scheme) := by
  unfold judgeData
  split
  · simp
  · split <;> simp

theorem classify_of_beginsWith_data (h : BeginsWith dataScheme url.toList) :
    classify url = judgeData (lower url.toList) := by
  have hscheme := scheme?_lower_of_beginsWith isDelimiter_of_mem_dataScheme h
  rw [classify, judge_of_dataScheme hscheme]

/-- A safe data URL is made of the parts of one, and its media type is allowed. -/
theorem exists_render_of_safe_data (h : BeginsWith dataScheme url.toList)
    (hsafe : classify url = .safe) : ∃ d : DataUrl, d.WellFormed ∧
      d.mediaType ∈ allowedMediaTypes ∧ lower url.toList = d.render := by
  have hscheme := scheme?_lower_of_beginsWith isDelimiter_of_mem_dataScheme h
  rcases judge_eq_safe_iff.mp hsafe with hall | hparts
  · have hnot : dataScheme ∉ allowedSchemes := by decide
    exact absurd (hall _ hscheme) hnot
  · exact hparts

/-- A safe data URL stays safe if its payload goes on; else it is malformed. -/
theorem classify_append_of_safe_data (h : BeginsWith dataScheme url.toList)
    (hsafe : classify url = .safe) (text : String) :
    (IsMorePayload (url.toList.getLast? = some '=') text.toList →
      classify (url ++ text) = .safe) ∧
    (¬ IsMorePayload (url.toList.getLast? = some '=') text.toList →
      classify (url ++ text) = .refused .malformedDataUrl) := by
  obtain ⟨d, hd, htype, hurl⟩ := exists_render_of_safe_data h hsafe
  have hlonger : classify (url ++ text) = judgeData (d.render ++ lower text.toList) := by
    rw [classify_of_beginsWith_data, String.toList_append, lower_append, hurl]
    rw [String.toList_append]
    exact h.append _
  rw [hlonger, ← goesOnWith_lower_iff hd hurl, judgeData]
  constructor
  · intro hgoes
    obtain ⟨e, he, hsame⟩ := (DataUrl.exists_parse?_render_append_iff hd).mpr hgoes
    rw [he]
    simp only [hsame, if_pos htype]
  · intro hstops
    rw [DataUrl.parse?_render_append_eq_none hd hstops]

/-- A colon after a text without delimiters makes the text a scheme. -/
theorem classify_append_colon (h : ∀ c ∈ url.toList, isDelimiter c = false) (text : String) :
    scheme? (lower (url ++ ":" ++ text).toList) = some (lower url.toList) := by
  rw [scheme?_lower, String.toList_append, String.toList_append, List.append_assoc]
  have hscheme : scheme? (url.toList ++ ':' :: text.toList) = some url.toList :=
    scheme?_eq_some_iff.mpr ⟨h, _, rfl⟩
  rw [show ":".toList ++ text.toList = ':' :: text.toList from rfl, hscheme]
  rfl

/-! ## All of it -/

/-- How the verdict on a URL moves when text is appended. -/
structure Appending (url text : String) : Prop where
  /-- No colon that comes later makes a scheme. -/
  relative : Relative url.toList → classify (url ++ text) = .safe
  /-- An allowed scheme stays. -/
  allowed : ∀ k ∈ allowedSchemes, BeginsWith k url.toList → classify (url ++ text) = .safe
  /-- So does one that is refused. -/
  disallowed : ∀ scheme, classify url = .refused (.disallowedScheme scheme) →
    classify (url ++ text) = classify url
  /-- A data URL is not refused by its scheme. -/
  data : BeginsWith dataScheme url.toList →
    ∀ scheme, classify (url ++ text) ≠ .refused (.disallowedScheme scheme)
  /-- A safe data URL stays safe if and only if its payload goes on. -/
  safeData : BeginsWith dataScheme url.toList → classify url = .safe →
    (classify (url ++ text) = .safe ↔
      IsMorePayload (url.toList.getLast? = some '=') text.toList) ∧
    (classify (url ++ text) ≠ .safe → classify (url ++ text) = .refused .malformedDataUrl)
  /-- A text without delimiters is safe, and a colon after it makes it a scheme. -/
  bare : (∀ c ∈ url.toList, isDelimiter c = false) → classify url = .safe ∧
    (lower url.toList ∈ allowedSchemes → classify (url ++ ":" ++ text) = .safe) ∧
    ((∃ scheme, classify (url ++ ":" ++ text) = .refused (.disallowedScheme scheme)) ↔
      lower url.toList ∉ allowedSchemes ∧ lower url.toList ≠ dataScheme)
  /-- The first delimiter settles the verdict on all that is no data URL. -/
  settled : ¬ BeginsWith dataScheme url.toList →
    classify url = classify (String.ofList (throughDelimiter url.toList))

/-- A text without delimiters is safe, and a colon behind it makes it a scheme. -/
theorem bare_append (h : ∀ c ∈ url.toList, isDelimiter c = false) (text : String) :
    classify url = .safe ∧
    (lower url.toList ∈ allowedSchemes → classify (url ++ ":" ++ text) = .safe) ∧
    ((∃ scheme, classify (url ++ ":" ++ text) = .refused (.disallowedScheme scheme)) ↔
      lower url.toList ∉ allowedSchemes ∧ lower url.toList ≠ dataScheme) := by
  have hscheme := classify_append_colon h text
  have hnone : scheme? (lower url.toList) = none := by
    rw [scheme?_lower, scheme?_eq_none_of_forall h]
    rfl
  refine ⟨judge_of_scheme?_eq_none hnone, judge_of_mem_allowedSchemes hscheme, ?_⟩
  constructor
  · rintro ⟨scheme, hrefused⟩
    obtain ⟨hallowed, hdata, -⟩ := of_judge_eq_disallowedScheme hrefused
    have hname : lower url.toList = scheme.toList := by
      have hsame := (scheme?_of_disallowed hrefused).1
      rw [hscheme] at hsame
      exact Option.some.inj hsame
    rw [hname]
    exact ⟨hallowed, hdata⟩
  · rintro ⟨hallowed, hdata⟩
    exact ⟨_, judge_of_other hscheme hallowed hdata⟩

/-- But for data URLs, the verdict is that on the text up to the first delimiter. -/
theorem classify_throughDelimiter (h : ¬ BeginsWith dataScheme url.toList) :
    classify url = classify (String.ofList (throughDelimiter url.toList)) := by
  rw [classify, classify, String.toList_ofList]
  apply judge_congr
  · rw [scheme?_lower, scheme?_lower, scheme?_throughDelimiter]
  · exact fun hdata => h (beginsWith_of_scheme? hdata)

/-- **The first delimiter settles the verdict.** Whatever is appended to a URL after it, the verdict
stays, and the one exception are data URLs: a safe one stays safe as long as its payload goes on and
is malformed from then on. -/
theorem verdict_append (url text : String) : Appending url text where
  relative h := classify_append_of_relative h text
  allowed _ hk h := classify_append_of_allowed hk h text
  disallowed _ h := by
    obtain ⟨hscheme, hdata⟩ := scheme?_of_disallowed h
    exact classify_append_of_scheme? hscheme hdata text
  data h scheme := by
    rw [classify_of_beginsWith_data]
    · exact judgeData_ne_disallowedScheme _ _
    · rw [String.toList_append]
      exact h.append _
  safeData h hsafe := by
    obtain ⟨hgoes, hstops⟩ := classify_append_of_safe_data h hsafe text
    refine ⟨⟨fun hsafe' => ?_, hgoes⟩, fun hunsafe => hstops (mt hgoes hunsafe)⟩
    by_contra hnot
    rw [hstops hnot] at hsafe'
    cases hsafe'
  bare h := bare_append h text
  settled h := classify_throughDelimiter h

/-- A payload goes on until there is padding. -/
example : classify ("Data:image/png;base64,AA" ++ "bc==") = .safe ∧
    classify ("data:image/png;base64,AA=" ++ "bc==") = .refused .malformedDataUrl := by decide

end LinkGate.Url
