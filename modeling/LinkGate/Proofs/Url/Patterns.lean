import LinkGate.Proofs.Regex
import LinkGate.Proofs.Url.DataUrl
import LinkGate.Proofs.Url.Scheme
import LinkGate.Url.Verdict

/-!
# The verdict by three patterns

The rule for URLs is often written as three regular expressions that are tried one after another
on the text in lower case: `safeUrlPattern` for what has an allowed scheme or none,
`dataUrlPattern` for base64 data URLs, whose first group is the media type, and `mediaTypePattern`
for the types that are allowed. `judgeByPatterns` is the rule in this form, and
`judgeByPatterns_eq_judge` says that it is the rule by the first delimiter. The two facts behind
it are that `safeUrlPattern` fails only where a colon comes before every other delimiter
(`isMatch_safeUrl_iff`), and that `dataUrlPattern` captures the media type that `DataUrl.parse?`
reads (`captures?_dataUrl`), since a data URL has only one triple of parts.
-/

namespace LinkGate.Url

open Regex

variable {s : List Char}

/-! ## The patterns -/

/-- `(?:https?|mailto|ftp):` -/
def allowedSchemePattern : Regex :=
  seq (either (seq (text "http".toList) (text "s".toList).optional)
    (either (text "mailto".toList) (text "ftp".toList))) (text ":".toList)

/-- `[^:/?#]*(?:[/?#]|$)` -/
def relativePattern : Regex :=
  seq (many (!isDelimiter ·)) (either (one fun c => c == '/' || c == '?' || c == '#') finish)

/-- URLs that start with an allowed scheme or have none. -/
def safeUrlPattern : Regex := either allowedSchemePattern relativePattern

/-- `data:([^;,]*);base64,[a-z0-9+/]+=*$` -/
def dataUrlPattern : Regex :=
  seq (text DataUrl.opening) (seq (group (many DataUrl.isTypeChar)) (seq (text DataUrl.separator)
    (seq (one DataUrl.isDigit) (seq (many DataUrl.isDigit)
      (seq (many DataUrl.isPadding) finish)))))

def ofTypePattern (name : String) (subtypes : List String) : Regex :=
  seq (text (name ++ "/").toList) (anyOf (subtypes.map String.toList))

/-- The allowed media types, up to the end of the text. -/
def mediaTypePattern : Regex :=
  seq (either (ofTypePattern "audio" audioSubtypes)
    (either (ofTypePattern "image" imageSubtypes) (ofTypePattern "video" videoSubtypes))) finish

def judgeByPatterns (s : List Char) : Verdict :=
  if safeUrlPattern.isMatch s then .safe
  else match dataUrlPattern.captures? s with
    | some (type :: _) =>
      if mediaTypePattern.isMatch type then .safe
      else .refused (.disallowedMediaType (String.ofList type))
    | _ =>
      if DataUrl.opening.isPrefixOf s then .refused .malformedDataUrl
      -- `safeUrlPattern` failed, so the colon that ends this text is the first delimiter
      else .refused (.disallowedScheme (String.ofList (s.takeWhile (· != ':'))))

/-! ## Allowed schemes and relative URLs -/

/-- An allowed scheme is a text without delimiters before a colon. -/
theorem isDelimiter_of_mem_allowedSchemes {k : List Char} (hk : k ∈ allowedSchemes) :
    ∀ c ∈ k, isDelimiter c = false := by
  have hall : allowedSchemes.all (·.all (!isDelimiter ·)) = true := by decide
  simp only [List.all_eq_true, Bool.not_eq_true'] at hall
  exact hall k hk

theorem isDelimiter_of_mem_dataScheme : ∀ c ∈ dataScheme, isDelimiter c = false := by
  have hall : dataScheme.all (!isDelimiter ·) = true := by decide
  simpa only [List.all_eq_true, Bool.not_eq_true'] using hall

/-- The first alternative takes an allowed scheme and its colon. -/
theorem mem_ways_allowedScheme {a t : List Char} {g : List (List Char)} :
    ⟨a, g, t⟩ ∈ allowedSchemePattern.ways s ↔
      ∃ k ∈ allowedSchemes, a = k ++ [':'] ∧ g = [] ∧ s = k ++ ':' :: t := by
  simp only [allowedSchemePattern, Regex.optional, mem_ways_seq, mem_ways_either, mem_ways_text]
  refine ⟨fun h => ?_, fun h => ?_⟩
  · obtain ⟨a₁, g₁, mid, a₂, g₂, hname, ⟨rfl, rfl, rfl⟩, rfl, rfl⟩ := h
    refine ⟨a₁, ?_⟩
    -- `http` with or without the last letter, `mailto`, `ftp`
    rcases hname with ⟨_, _, _, _, _, ⟨rfl, rfl, rfl⟩, hs, rfl, rfl⟩ | ⟨rfl, rfl, rfl⟩
      | ⟨rfl, rfl, rfl⟩
    · rcases hs with ⟨rfl, rfl, rfl⟩ | ⟨rfl, rfl, rfl⟩
      · exact ⟨by decide, rfl, rfl, rfl⟩
      · exact ⟨by decide, rfl, rfl, rfl⟩
    · exact ⟨by decide, rfl, rfl, rfl⟩
    · exact ⟨by decide, rfl, rfl, rfl⟩
  · obtain ⟨k, hk, rfl, rfl, rfl⟩ := h
    refine ⟨k, [], ':' :: t, [':'], [], ?_, ⟨rfl, rfl, rfl⟩, rfl, rfl⟩
    simp only [allowedSchemes, List.mem_cons, List.not_mem_nil, or_false] at hk
    rcases hk with rfl | rfl | rfl | rfl
    · exact .inl ⟨_, _, _, [], [], ⟨rfl, rfl, rfl⟩, .inr ⟨rfl, rfl, rfl⟩, rfl, rfl⟩
    · exact .inl ⟨_, _, _, "s".toList, [], ⟨rfl, rfl, rfl⟩, .inl ⟨rfl, rfl, rfl⟩, rfl, rfl⟩
    · exact .inr (.inl ⟨rfl, rfl, rfl⟩)
    · exact .inr (.inr ⟨rfl, rfl, rfl⟩)

/-- What `relativePattern` takes has no delimiter but the last character, which is no colon. -/
theorem mem_ways_relative {a t : List Char} {g : List (List Char)} :
    ⟨a, g, t⟩ ∈ relativePattern.ways s ↔ ∃ k, (∀ c ∈ k, isDelimiter c = false) ∧ g = [] ∧
      ((∃ c, (c = '/' ∨ c = '?' ∨ c = '#') ∧ a = k ++ [c] ∧ s = k ++ c :: t) ∨
        (a = k ∧ s = k ∧ t = [])) := by
  simp only [relativePattern, mem_ways_seq, mem_ways_many, mem_ways_either, mem_ways_one,
    mem_ways_finish, Bool.not_eq_true', Bool.or_eq_true, beq_iff_eq, or_assoc]
  refine ⟨fun h => ?_, fun h => ?_⟩
  · obtain ⟨k, _, mid, a₂, _, ⟨hk, rfl, rfl⟩, hend, rfl, rfl⟩ := h
    rcases hend with ⟨c, hc, rfl, rfl, rfl⟩ | ⟨rfl, rfl, rfl, rfl⟩
    · exact ⟨k, hk, rfl, .inl ⟨c, hc, rfl, rfl⟩⟩
    · exact ⟨k, hk, rfl, .inr ⟨List.append_nil k, List.append_nil k, rfl⟩⟩
  · obtain ⟨k, hk, rfl, ⟨c, hc, rfl, rfl⟩ | ⟨rfl, rfl, rfl⟩⟩ := h
    · exact ⟨k, [], c :: t, [c], [], ⟨hk, rfl, rfl⟩, .inl ⟨c, hc, rfl, rfl, rfl⟩, rfl, rfl⟩
    · exact ⟨s, [], [], [], [], ⟨hk, rfl, (List.append_nil s).symm⟩,
        .inr ⟨rfl, rfl, rfl, rfl⟩, (List.append_nil s).symm, rfl⟩

/-- The second alternative of `safeUrlPattern` is there for exactly the URLs without a scheme. -/
theorem isMatch_relative_iff : relativePattern.isMatch s = true ↔ scheme? s = none := by
  rw [isMatch_iff]
  refine ⟨fun hmatch => ?_, fun hs => ?_⟩
  · obtain ⟨a, g, t, hw⟩ := hmatch
    obtain ⟨k, hk, -, ⟨c, hc, -, rfl⟩ | ⟨-, rfl, -⟩⟩ := mem_ways_relative.mp hw
    · have hne : c ≠ ':' := by
        intro hcolon
        rw [hcolon] at hc
        exact absurd hc (by decide)
      rw [scheme?_append_delimiter hk (isDelimiter_iff.mpr (.inr hc)), if_neg hne]
    · exact scheme?_eq_none_of_forall hk
  · have hhead := isDelimiter_head s
    rcases head_cases s with h | ⟨c, r, hc, h⟩
    · exact ⟨head s, [], [], mem_ways_relative.mpr ⟨head s, hhead, rfl, .inr ⟨rfl, h, rfl⟩⟩⟩
    · rw [h, scheme?_append_delimiter hhead hc] at hs
      -- a colon would make the head a scheme
      have hne : c ≠ ':' := by
        intro hcolon
        rw [if_pos hcolon] at hs
        cases hs
      have hother := (isDelimiter_iff.mp hc).resolve_left hne
      exact ⟨head s ++ [c], [], r,
        mem_ways_relative.mpr ⟨head s, hhead, rfl, .inl ⟨c, hother, rfl, h⟩⟩⟩

/-- The two alternatives of `safeUrlPattern` collapse to a rule on the first delimiter. -/
theorem isMatch_safeUrl_iff :
    safeUrlPattern.isMatch s = true ↔ ∀ k, scheme? s = some k → k ∈ allowedSchemes := by
  have halt : safeUrlPattern.isMatch s = true ↔
      allowedSchemePattern.isMatch s = true ∨ relativePattern.isMatch s = true := by
    simp only [isMatch_iff, safeUrlPattern, mem_ways_either, exists_or]
  rw [halt, isMatch_relative_iff, isMatch_iff]
  refine ⟨fun hmatch k hk => ?_, fun hall => ?_⟩
  · rcases hmatch with ⟨a, g, t, hw⟩ | hnone
    · obtain ⟨k', hk', -, -, rfl⟩ := mem_ways_allowedScheme.mp hw
      have hs := scheme?_eq_some_iff.mpr ⟨isDelimiter_of_mem_allowedSchemes hk', t, rfl⟩
      rw [hs] at hk
      cases hk
      exact hk'
    · rw [hnone] at hk
      cases hk
  · cases h : scheme? s with
    | none => exact .inr rfl
    | some k =>
      obtain ⟨-, r, hs⟩ := scheme?_eq_some_iff.mp h
      exact .inl ⟨k ++ [':'], [], r,
        mem_ways_allowedScheme.mpr ⟨k, hall k h, rfl, rfl, hs⟩⟩

/-! ## Data URLs -/

/-- A way to match `dataUrlPattern` is a triple of parts that the whole text is made of. -/
theorem mem_ways_dataUrl {a t : List Char} {g : List (List Char)} :
    ⟨a, g, t⟩ ∈ dataUrlPattern.ways s ↔
      ∃ d : DataUrl, d.WellFormed ∧ a = s ∧ g = [d.mediaType] ∧ s = d.render ∧ t = [] := by
  unfold dataUrlPattern
  refine ⟨fun hw => ?_, fun h => ?_⟩
  · obtain ⟨_, _, hopened, rfl, rfl⟩ := mem_ways_text_seq.mp hw
    obtain ⟨type, _, _, _, _, hgroup, htyped, rfl, rfl⟩ := mem_ways_seq.mp hopened
    obtain ⟨_, rfl, hmany⟩ := mem_ways_group.mp hgroup
    obtain ⟨htype, rfl, rfl⟩ := mem_ways_many.mp hmany
    obtain ⟨_, _, hseparated, rfl, rfl⟩ := mem_ways_text_seq.mp htyped
    obtain ⟨_, _, _, _, _, hone, hbegun, rfl, rfl⟩ := mem_ways_seq.mp hseparated
    obtain ⟨c, hc, rfl, rfl, rfl⟩ := mem_ways_one.mp hone
    obtain ⟨digits, _, _, hdigits, hpaid, rfl, rfl⟩ := mem_ways_many_seq.mp hbegun
    obtain ⟨padding, _, _, hpadding, hpadded, rfl, rfl⟩ := mem_ways_many_seq.mp hpaid
    obtain ⟨rfl, rfl, rfl, rfl⟩ := mem_ways_finish.mp hpadded
    refine ⟨⟨type, c :: digits, padding⟩, ⟨htype, List.cons_ne_nil _ _,
      List.forall_mem_cons.mpr ⟨hc, hdigits⟩, hpadding⟩, ?_, rfl, ?_, rfl⟩
    · rfl
    · rw [DataUrl.render_eq, List.append_nil]
      rfl
  · obtain ⟨⟨type, payload, padding⟩, ⟨htype, hne, hpayload, hpadding⟩, rfl, rfl, rfl, rfl⟩ := h
    obtain ⟨c, digits, rfl⟩ := List.exists_cons_of_ne_nil hne
    obtain ⟨hc, hdigits⟩ := List.forall_mem_cons.mp hpayload
    have hfinish : ⟨[], [], []⟩ ∈ finish.ways [] := mem_ways_finish.mpr ⟨rfl, rfl, rfl, rfl⟩
    have hend := mem_ways_many_seq.mpr ⟨padding, [], [], hpadding, hfinish, rfl, rfl⟩
    have hmany := mem_ways_many_seq.mpr ⟨digits, _, _, hdigits, hend, rfl, rfl⟩
    have hone := mem_ways_seq.mpr
      ⟨[c], [], _, _, _, mem_ways_one.mpr ⟨c, hc, rfl, rfl, rfl⟩, hmany, rfl, rfl⟩
    have hseparator := (mem_ways_text_seq (x := DataUrl.separator)).mpr ⟨_, _, hone, rfl, rfl⟩
    have hgroup := mem_ways_seq.mpr ⟨type, [type], _, _, _,
      mem_ways_group.mpr ⟨[], rfl, mem_ways_many.mpr ⟨htype, rfl, rfl⟩⟩, hseparator, rfl, rfl⟩
    refine mem_ways_text_seq.mpr ⟨_, _, hgroup, ?_, ?_⟩
    · rw [DataUrl.render_eq, List.append_nil]
      rfl
    · rw [DataUrl.render_eq, List.append_nil]
      rfl

/-- The group captures the media type, whatever way the reader tries first. -/
theorem captures?_dataUrl (s : List Char) :
    dataUrlPattern.captures? s = (DataUrl.parse? s).map fun d => [d.mediaType] := by
  rcases captures?_cases dataUrlPattern s with ⟨hempty, hnone⟩ | ⟨a, g, t, hw, hsome⟩
  · rw [hnone]
    cases h : DataUrl.parse? s with
    | none => rfl
    | some d =>
      obtain ⟨hd, hs⟩ := DataUrl.parse?_eq_some_iff.mp h
      have hmem := mem_ways_dataUrl.mpr ⟨d, hd, rfl, rfl, hs, rfl⟩
      rw [hempty] at hmem
      cases hmem
  · obtain ⟨d, hd, -, rfl, hs, -⟩ := mem_ways_dataUrl.mp hw
    rw [hsome, DataUrl.parse?_eq_some_iff.mpr ⟨hd, hs⟩]
    rfl

/-! ## Media types -/

/-- A media type is the name of its type, a slash and a subtype. -/
theorem mem_ways_ofType {a t : List Char} {g : List (List Char)} {name : String}
    {subtypes : List String} :
    ⟨a, g, t⟩ ∈ (ofTypePattern name subtypes).ways s ↔
      ∃ sub ∈ subtypes, a = (name ++ "/").toList ++ sub.toList ∧ g = [] ∧ s = a ++ t := by
  simp only [ofTypePattern, mem_ways_seq, mem_ways_text, mem_ways_anyOf, List.mem_map]
  refine ⟨fun h => ?_, fun h => ?_⟩
  · obtain ⟨_, _, _, _, _, ⟨rfl, rfl, rfl⟩, ⟨⟨sub, hsub, rfl⟩, rfl, rfl⟩, rfl, rfl⟩ := h
    exact ⟨sub, hsub, rfl, rfl, by rw [List.append_assoc]⟩
  · obtain ⟨sub, hsub, rfl, rfl, rfl⟩ := h
    exact ⟨_, [], _, _, [], ⟨rfl, rfl, List.append_assoc _ _ _⟩, ⟨⟨sub, hsub, rfl⟩, rfl, rfl⟩,
      rfl, rfl⟩

/-- The pattern of media types matches those that are allowed, and no more. -/
theorem isMatch_mediaType_iff : mediaTypePattern.isMatch s = true ↔ s ∈ allowedMediaTypes := by
  have hways : mediaTypePattern.isMatch s = true ↔
      (∃ sub ∈ audioSubtypes, s = "audio/".toList ++ sub.toList) ∨
        (∃ sub ∈ imageSubtypes, s = "image/".toList ++ sub.toList) ∨
          ∃ sub ∈ videoSubtypes, s = "video/".toList ++ sub.toList := by
    rw [isMatch_iff]
    simp only [mediaTypePattern, mem_ways_seq, mem_ways_either, mem_ways_ofType, mem_ways_finish]
    refine ⟨fun h => ?_, fun htype => ?_⟩
    · obtain ⟨_, _, _, a, _, _, _, _, htype, ⟨rfl, rfl, rfl, rfl⟩, rfl, rfl⟩ := h
      rcases htype with ⟨sub, hsub, rfl, rfl, rfl⟩ | ⟨sub, hsub, rfl, rfl, rfl⟩
        | ⟨sub, hsub, rfl, rfl, rfl⟩
      · exact .inl ⟨sub, hsub, List.append_nil _⟩
      · exact .inr (.inl ⟨sub, hsub, List.append_nil _⟩)
      · exact .inr (.inr ⟨sub, hsub, List.append_nil _⟩)
    · refine ⟨s, [], [], s, [], [], [], [], ?_, ⟨rfl, rfl, rfl, rfl⟩, (List.append_nil s).symm,
        rfl⟩
      rcases htype with ⟨sub, hsub, hs⟩ | ⟨sub, hsub, hs⟩ | ⟨sub, hsub, hs⟩
      · exact .inl ⟨sub, hsub, hs, rfl, (List.append_nil s).symm⟩
      · exact .inr (.inl ⟨sub, hsub, hs, rfl, (List.append_nil s).symm⟩)
      · exact .inr (.inr ⟨sub, hsub, hs, rfl, (List.append_nil s).symm⟩)
  rw [hways, allowedMediaTypes, List.mem_append, List.mem_append, List.mem_map, List.mem_map,
    List.mem_map, or_assoc]
  simp only [eq_comm (a := s)]

/-! ## The two forms of the rule -/

/-- The text before the first colon is the scheme, if there is one. -/
theorem takeWhile_eq_scheme {k : List Char} (h : scheme? s = some k) :
    s.takeWhile (· != ':') = k := by
  obtain ⟨hk, r, rfl⟩ := scheme?_eq_some_iff.mp h
  refine Text.takeWhile_append_of_endsRun (fun c hc => ?_) (by simp)
  have hne : c ≠ ':' := by
    intro hcolon
    have hdelimiter := hk c hc
    rw [hcolon] at hdelimiter
    exact absurd hdelimiter (by decide)
  simpa using hne

/-- A text opens as a data URL if its scheme is `data`. -/
theorem opening_isPrefixOf_iff :
    DataUrl.opening.isPrefixOf s = true ↔ scheme? s = some dataScheme := by
  rw [List.isPrefixOf_iff_prefix, scheme?_eq_some_iff]
  refine ⟨fun h => ?_, fun h => ?_⟩
  · obtain ⟨r, rfl⟩ := h
    exact ⟨isDelimiter_of_mem_dataScheme, r, rfl⟩
  · obtain ⟨-, r, rfl⟩ := h
    exact ⟨r, rfl⟩

/-- Trying the three patterns in turn gives the verdict by the first delimiter. -/
theorem judgeByPatterns_eq_judge (s : List Char) : judgeByPatterns s = judge s := by
  unfold judgeByPatterns judge
  cases h : scheme? s with
  | none => rw [if_pos (isMatch_safeUrl_iff.mpr fun k hk => by rw [h] at hk; cases hk)]
  | some k =>
    by_cases hk : k ∈ allowedSchemes
    · rw [if_pos (isMatch_safeUrl_iff.mpr fun k' hk' => by rw [h] at hk'; cases hk'; exact hk)]
      exact (if_pos hk).symm
    · rw [if_neg fun hmatch => hk (isMatch_safeUrl_iff.mp hmatch k h)]
      simp only [if_neg hk]
      rw [captures?_dataUrl]
      by_cases hdata : k = dataScheme
      · rw [if_pos hdata, judgeData]
        cases hd : DataUrl.parse? s with
        | none =>
          rw [Option.map_none]
          exact if_pos (opening_isPrefixOf_iff.mpr (hdata ▸ h))
        | some d =>
          simp only [Option.map_some, isMatch_mediaType_iff]
      · have hopening : ¬ DataUrl.opening.isPrefixOf s = true := by
          rw [opening_isPrefixOf_iff, h]
          exact fun heq => hdata (Option.some.inj heq)
        have hparse : DataUrl.parse? s = none := by
          rw [DataUrl.parse?_eq_none_iff]
          intro d _ hs
          refine hopening (List.isPrefixOf_iff_prefix.mpr ?_)
          rw [hs, DataUrl.render_eq]
          exact List.prefix_append _ _
        rw [if_neg hdata, hparse, Option.map_none]
        simp only [if_neg hopening, takeWhile_eq_scheme h]

end LinkGate.Url
