import LinkGate.Proofs.Regex.Matcher
import LinkGate.Proofs.Url.Verdict

/-!
# The patterns leave no choice to their reader

`judgeByPatterns` tries `safeUrlPattern` before `dataUrlPattern`, and believes what the group of
the second one captures. Neither the order of the two nor the order in which a reader of
expressions goes about its work has a say in the verdict:

* `unambiguous_dataUrl`: a data URL is matched in one way, since a text has one triple of parts.
  Whatever matcher is used, the group is the media type that `DataUrl.parse?` reads.
* `not_isMatch_dataUrl`: a text that is safe by its scheme is no data URL, since the scheme `data`
  is not allowed. So the two tests commute (`linkTest_or_dataTest`).
* `takes_relative_iff`: the second alternative of `safeUrlPattern` is told from the first by the
  matched text, which has no colon in it.
-/

namespace LinkGate.Url

open Regex

variable {s a t : List Char} {g : List (List Char)} {d : DataUrl}

/-! ## Data URLs are matched in one way -/

/-- The pattern takes a data URL as a whole, in its parts. -/
theorem takes_dataUrl_iff : Takes dataUrlPattern a g t ↔
    ∃ d : DataUrl, d.WellFormed ∧ a = d.render ∧ g = [d.mediaType] ∧ t = [] := by
  constructor
  · intro h
    obtain ⟨d, hd, -, hg, hs, ht⟩ := mem_ways_dataUrl.mp h.mem_ways
    rw [ht, List.append_nil] at hs
    exact ⟨d, hd, hs, hg, ht⟩
  · intro h
    obtain ⟨d, hd, ha, hg, ht⟩ := h
    have hw : ⟨a, g, t⟩ ∈ dataUrlPattern.ways a :=
      mem_ways_dataUrl.mpr ⟨d, hd, rfl, hg, ha, ht⟩
    exact (takes_of_mem_ways hw).1

/-- It takes no text in two ways, because each part ends where the next one begins. -/
theorem unambiguous_dataUrl : dataUrlPattern.Unambiguous := by
  intro a g t a' g' t' h h' hs
  obtain ⟨d, hd, ha, hg, ht⟩ := takes_dataUrl_iff.mp h
  obtain ⟨e, he, ha', hg', ht'⟩ := takes_dataUrl_iff.mp h'
  -- both take the whole text, so the two triples of parts make the same text
  rw [ha, ha', ht, ht', List.append_nil, List.append_nil] at hs
  have hparts : d = e := DataUrl.render_injective hd he hs
  rw [ha, ha', hg, hg', ht, ht', hparts]
  exact ⟨rfl, rfl, rfl⟩

/-- The media type goes from the colon to the first semicolon or comma. -/
theorem takeWhile_isTypeChar_render (hd : d.WellFormed) :
    (d.render.drop DataUrl.opening.length).takeWhile DataUrl.isTypeChar = d.mediaType := by
  rw [DataUrl.render_eq, List.drop_left]
  exact Text.takeWhile_append_of_endsRun hd.1 (DataUrl.endsRun_separator _)

theorem isMatch_dataUrl_iff (m : Matcher) :
    m.isMatch dataUrlPattern s = true ↔ ∃ d : DataUrl, d.WellFormed ∧ s = d.render := by
  rw [m.isMatch_eq, isMatch_iff]
  constructor
  · intro h
    obtain ⟨a, g, t, hw⟩ := h
    obtain ⟨d, hd, -, -, hs, -⟩ := mem_ways_dataUrl.mp hw
    exact ⟨d, hd, hs⟩
  · intro h
    obtain ⟨d, hd, hs⟩ := h
    exact ⟨s, [d.mediaType], [], mem_ways_dataUrl.mpr ⟨d, hd, rfl, rfl, hs, rfl⟩⟩

/-- Any reader captures the media type that the parser reads. -/
theorem captures?_dataUrl_eq (m : Matcher) (s : List Char) :
    m.captures? dataUrlPattern s = (DataUrl.parse? s).map fun d => [d.mediaType] := by
  rw [unambiguous_dataUrl.captures?_eq m s, captures?_dataUrl]

theorem captures?_render (m : Matcher) (hd : d.WellFormed) :
    m.captures? dataUrlPattern d.render = some [d.mediaType] := by
  rw [captures?_dataUrl_eq, DataUrl.parse?_render hd]
  rfl

/-! ## Safe by the scheme, or a data URL -/

/-- A text that is safe by its scheme is no data URL. -/
theorem not_isMatch_dataUrl (m : Matcher) (h : m.isMatch safeUrlPattern s = true) :
    ¬ m.isMatch dataUrlPattern s = true := by
  intro hdata
  obtain ⟨d, -, hs⟩ := (isMatch_dataUrl_iff m).mp hdata
  rw [m.isMatch_eq, isMatch_safeUrl_iff, hs] at h
  have hallowed : dataScheme ∈ allowedSchemes := h dataScheme (scheme?_render d)
  exact absurd hallowed (by decide)

/-- The second alternative takes no colon. -/
theorem colon_not_mem_of_takes_relative (h : Takes relativePattern a g t) : ':' ∉ a := by
  obtain ⟨k, hk, -, hend⟩ := mem_ways_relative.mp h.mem_ways
  have hcolon : ':' ∉ k := by
    intro hmem
    exact absurd (hk ':' hmem) (by decide)
  cases hend with
  | inl hother =>
    -- the last character is a delimiter, but one of the other three
    obtain ⟨c, hc, ha, -⟩ := hother
    rw [ha, List.mem_append, List.mem_singleton]
    intro hmem
    rcases hmem with hmem | heq
    · exact hcolon hmem
    · rw [← heq] at hc
      exact absurd hc (by decide)
  | inr hover =>
    rw [hover.1]
    exact hcolon

/-- The second alternative of `safeUrlPattern` is behind a match if no colon is in it. -/
theorem takes_relative_iff :
    Takes relativePattern a g t ↔ Takes safeUrlPattern a g t ∧ ':' ∉ a := by
  constructor
  · intro h
    exact ⟨.right h, colon_not_mem_of_takes_relative h⟩
  · intro h
    cases h.1 with
    | left hallowed =>
      obtain ⟨k, -, ha, -⟩ := mem_ways_allowedScheme.mp hallowed.mem_ways
      have hcolon : ':' ∈ a := by
        rw [ha]
        exact List.mem_append_right k List.mem_cons_self
      exact absurd hcolon h.2
    | right hrelative => exact hrelative

/-! ## The order of the tests -/

/-- Safe, for a text that has an allowed scheme or none. -/
def linkTest (m : Matcher) (s : List Char) : Option Verdict :=
  if m.isMatch safeUrlPattern s then some .safe else none

def dataTest (m : Matcher) (s : List Char) : Option Verdict :=
  match m.captures? dataUrlPattern s with
  | some (type :: _) =>
    if m.isMatch mediaTypePattern type then some .safe
    else some (.refused (.disallowedMediaType (String.ofList type)))
  | _ => none

/-- The verdict on a text that passes neither test. -/
def leftover (s : List Char) : Verdict :=
  if DataUrl.opening.isPrefixOf s then .refused .malformedDataUrl
  else .refused (.disallowedScheme (String.ofList (s.takeWhile (· != ':'))))

/-- The verdict by two tests, of which the second is made if the first does not decide. -/
def judgeInTurn (first second : List Char → Option Verdict) (s : List Char) : Verdict :=
  ((first s).or (second s)).getD (leftover s)

/-- No text passes both tests, so either may be made first. -/
theorem linkTest_or_dataTest (m : Matcher) (s : List Char) :
    (linkTest m s).or (dataTest m s) = (dataTest m s).or (linkTest m s) := by
  by_cases hlink : m.isMatch safeUrlPattern s = true
  · have hdata : dataTest m s = none := by
      have hnot := not_isMatch_dataUrl m hlink
      have hfind : m.find? dataUrlPattern s = none := by simpa [Matcher.isMatch] using hnot
      rw [dataTest, Matcher.captures?, hfind, Option.map_none]
    rw [hdata, Option.or_none, Option.none_or]
  · have hnone : linkTest m s = none := if_neg hlink
    rw [hnone, Option.or_none, Option.none_or]

theorem judgeInTurn_swap (m : Matcher) (s : List Char) :
    judgeInTurn (dataTest m) (linkTest m) s = judgeInTurn (linkTest m) (dataTest m) s := by
  rw [judgeInTurn, judgeInTurn, linkTest_or_dataTest]

/-- By the tests in either order the verdict is the same, whatever reader makes them. -/
theorem judgeInTurn_eq_judge (m : Matcher) (s : List Char) :
    judgeInTurn (linkTest m) (dataTest m) s = judge s := by
  rw [← judgeByPatterns_eq_judge]
  unfold judgeInTurn linkTest dataTest judgeByPatterns leftover
  rw [m.isMatch_eq, captures?_dataUrl_eq, captures?_dataUrl]
  by_cases hlink : safeUrlPattern.isMatch s = true
  · rw [if_pos hlink, if_pos hlink]
    rfl
  · rw [if_neg hlink, if_neg hlink, Option.none_or]
    cases DataUrl.parse? s with
    | none => rfl
    | some d =>
      simp only [Option.map_some, m.isMatch_eq]
      split <;> rfl

/-! ## No choice -/

/-- What the two patterns say about the text `s` is the same for every reader of them. -/
structure ReadInOneWay (s : List Char) : Prop where
  /-- There is at most one triple of parts. -/
  parts : ∀ d e : DataUrl, d.WellFormed → e.WellFormed → s = d.render → s = e.render → d = e
  /-- `dataUrlPattern` matches if there is a triple of parts. -/
  isMatch_iff : ∀ m : Matcher,
    m.isMatch dataUrlPattern s = true ↔ ∃ d : DataUrl, d.WellFormed ∧ s = d.render
  /-- The group is the media type, which ends before the first semicolon or comma. -/
  captures : ∀ (m : Matcher) (d : DataUrl), d.WellFormed → s = d.render →
    m.captures? dataUrlPattern s = some [d.mediaType] ∧
      d.mediaType = (s.drop DataUrl.opening.length).takeWhile DataUrl.isTypeChar
  /-- Cutting the text at the ends of its runs reads what the group captures. -/
  parse : ∀ m : Matcher,
    m.captures? dataUrlPattern s = (DataUrl.parse? s).map fun d => [d.mediaType]
  /-- The text does not match both patterns. -/
  disjoint : ∀ m : Matcher,
    ¬ (m.isMatch safeUrlPattern s = true ∧ m.isMatch dataUrlPattern s = true)
  /-- A match through the second alternative of `safeUrlPattern` is one without a colon. -/
  relative : ∀ a g t, s = a ++ t →
    (Takes relativePattern a g t ↔ Takes safeUrlPattern a g t ∧ ':' ∉ a)

theorem readInOneWay (s : List Char) : ReadInOneWay s where
  parts d e hd he hs hs' := DataUrl.render_injective hd he (hs.symm.trans hs')
  isMatch_iff := isMatch_dataUrl_iff
  captures m d hd hs := by
    rw [hs]
    exact ⟨captures?_render m hd, (takeWhile_isTypeChar_render hd).symm⟩
  parse m := captures?_dataUrl_eq m s
  disjoint m h := not_isMatch_dataUrl m h.1 h.2
  relative _ _ _ _ := takes_relative_iff

/-- **The patterns leave no choice to their reader.** A data URL is matched in one way, so all
matchers capture the same media type; no text matches both patterns; and the verdict on a URL is
the same whichever pattern is tried first, and whatever matcher tries it. -/
theorem patterns_leave_no_choice :
    dataUrlPattern.Unambiguous ∧ (∀ s, ReadInOneWay s) ∧
      ∀ (m : Matcher) (url : String),
        classify url = judgeInTurn (linkTest m) (dataTest m) (Text.lower url.toList) ∧
          classify url = judgeInTurn (dataTest m) (linkTest m) (Text.lower url.toList) := by
  refine ⟨unambiguous_dataUrl, readInOneWay, fun m url => ?_⟩
  have hjudge : classify url = judgeInTurn (linkTest m) (dataTest m) (Text.lower url.toList) :=
    (judgeInTurn_eq_judge m _).symm
  constructor
  · exact hjudge
  · rw [judgeInTurn_swap]
    exact hjudge

/-- A media type may hold what other parts of the URL are made of. -/
example : Matcher.reluctant.captures? dataUrlPattern "data:data:base64/==\n;base64,aa==".toList
    = some ["data:base64/==\n".toList] := by decide

end LinkGate.Url
