import LinkGate.Proofs.Url.Patterns

/-!
# The verdict and the first delimiter

The rule for links is told here without any reader: `FirstDelimiterRule` says which verdict a text
in lower case gets, by the place of its first delimiter, the text before that place and the parts
of a data URL. It has one case for each way a verdict comes about, and the cases speak of the text
alone. `classify_by_first_delimiter` says that the verdict on a URL is the one that the rule gives,
for every text and every verdict, so the rule is total and never gives two verdicts.

The lemmas of the first section are the steps of `judge`. Later modules cite them and do not
unfold it.
-/

namespace LinkGate.Url

variable {s k : List Char} {v : Verdict}

/-! ## The steps of the verdict -/

theorem judge_of_scheme?_eq_none (h : scheme? s = none) : judge s = .safe := by
  rw [judge, h]

theorem judge_of_mem_allowedSchemes (h : scheme? s = some k) (hk : k ∈ allowedSchemes) :
    judge s = .safe := by
  rw [judge, h]
  exact if_pos hk

theorem judge_of_dataScheme (h : scheme? s = some dataScheme) : judge s = judgeData s := by
  have hdata : dataScheme ∉ allowedSchemes := by decide
  rw [judge, h]
  simp only [if_neg hdata, if_true]

theorem judge_of_other (h : scheme? s = some k) (hk : k ∉ allowedSchemes) (hd : k ≠ dataScheme) :
    judge s = .refused (.disallowedScheme (String.ofList k)) := by
  rw [judge, h]
  simp only [if_neg hk, if_neg hd]

theorem judgeData_render {d : DataUrl} (hd : d.WellFormed) :
    judgeData d.render = if d.mediaType ∈ allowedMediaTypes then .safe
      else .refused (.disallowedMediaType (String.ofList d.mediaType)) := by
  rw [judgeData, DataUrl.parse?_render hd]

/-- A text that is not made of the parts of a data URL is malformed. -/
theorem judgeData_of_forall_ne (h : ∀ d : DataUrl, d.WellFormed → s ≠ d.render) :
    judgeData s = .refused .malformedDataUrl := by
  rw [judgeData, DataUrl.parse?_eq_none_iff.mpr h]

/-- The scheme of a data URL is `data`. -/
theorem scheme?_render (d : DataUrl) : scheme? d.render = some dataScheme := by
  rw [scheme?_eq_some_iff]
  refine ⟨isDelimiter_of_mem_dataScheme,
    d.mediaType ++ (DataUrl.separator ++ (d.payload ++ d.padding)), ?_⟩
  rw [DataUrl.render_eq]
  rfl

/-! ## The rule -/

/-- `FirstDelimiterRule s v`: the verdict on the text `s`, which is in lower case, is `v`. -/
inductive FirstDelimiterRule (s : List Char) : Verdict → Prop
  /-- There is no delimiter. -/
  | noDelimiter (hnone : ∀ c ∈ s, isDelimiter c = false) : FirstDelimiterRule s .safe
  /-- The first delimiter is no colon. -/
  | relative {i : Nat} {c : Char} (hfirst : FirstDelimiter s i c) (hc : c ≠ ':') :
    FirstDelimiterRule s .safe
  /-- A colon comes first, and what stands before it is an allowed scheme. -/
  | allowedScheme {i : Nat} (hfirst : FirstDelimiter s i ':') (hk : s.take i ∈ allowedSchemes) :
    FirstDelimiterRule s .safe
  /-- A colon comes first after `data`, and the parts have an allowed media type. -/
  | allowedData {i : Nat} {d : DataUrl} (hfirst : FirstDelimiter s i ':')
    (hk : s.take i = dataScheme) (hd : d.WellFormed) (hs : s = d.render)
    (htype : d.mediaType ∈ allowedMediaTypes) : FirstDelimiterRule s .safe
  /-- A colon comes first after `data`, and the parts have another media type. -/
  | otherData {i : Nat} {d : DataUrl} (hfirst : FirstDelimiter s i ':')
    (hk : s.take i = dataScheme) (hd : d.WellFormed) (hs : s = d.render)
    (htype : d.mediaType ∉ allowedMediaTypes) :
    FirstDelimiterRule s (.refused (.disallowedMediaType (String.ofList d.mediaType)))
  /-- A colon comes first after `data`, and the text is not made of the parts of a data URL. -/
  | malformedData {i : Nat} (hfirst : FirstDelimiter s i ':') (hk : s.take i = dataScheme)
    (hd : ∀ d : DataUrl, d.WellFormed → s ≠ d.render) :
    FirstDelimiterRule s (.refused .malformedDataUrl)
  /-- A colon comes first after anything else. -/
  | otherScheme {i : Nat} (hfirst : FirstDelimiter s i ':') (hk : s.take i ∉ allowedSchemes)
    (hdata : s.take i ≠ dataScheme) :
    FirstDelimiterRule s (.refused (.disallowedScheme (String.ofList (s.take i))))

/-- The verdict is what the rule says. One case for each clause of it. -/
theorem FirstDelimiterRule.judge_eq (h : FirstDelimiterRule s v) : judge s = v := by
  have hscheme : ∀ {i}, FirstDelimiter s i ':' → scheme? s = some (s.take i) := by
    intro i hfirst
    rw [hfirst.scheme?_eq, if_pos rfl]
  cases h with
  | noDelimiter hnone => exact judge_of_scheme?_eq_none (scheme?_eq_none_of_forall hnone)
  | relative hfirst hc =>
    refine judge_of_scheme?_eq_none ?_
    rw [hfirst.scheme?_eq, if_neg hc]
  | allowedScheme hfirst hk => exact judge_of_mem_allowedSchemes (hscheme hfirst) hk
  | allowedData hfirst hk hd hs htype =>
    rw [judge_of_dataScheme (hk ▸ hscheme hfirst), hs, judgeData_render hd, if_pos htype]
  | otherData hfirst hk hd hs htype =>
    rw [judge_of_dataScheme (hk ▸ hscheme hfirst), hs, judgeData_render hd, if_neg htype]
  | malformedData hfirst hk hd =>
    rw [judge_of_dataScheme (hk ▸ hscheme hfirst), judgeData_of_forall_ne hd]
  | otherScheme hfirst hk hdata => exact judge_of_other (hscheme hfirst) hk hdata

/-- The rule says something of every text. -/
theorem exists_firstDelimiterRule (s : List Char) : ∃ v, FirstDelimiterRule s v := by
  rcases forall_or_firstDelimiter s with hnone | ⟨i, c, hfirst⟩
  · exact ⟨_, .noDelimiter hnone⟩
  by_cases hc : c = ':'
  · subst hc
    by_cases hk : s.take i ∈ allowedSchemes
    · exact ⟨_, .allowedScheme hfirst hk⟩
    by_cases hdata : s.take i = dataScheme
    · -- here the parts decide, if there are any
      by_cases hd : ∃ d : DataUrl, d.WellFormed ∧ s = d.render
      · obtain ⟨d, hd, hs⟩ := hd
        by_cases htype : d.mediaType ∈ allowedMediaTypes
        · exact ⟨_, .allowedData hfirst hdata hd hs htype⟩
        · exact ⟨_, .otherData hfirst hdata hd hs htype⟩
      · exact ⟨_, .malformedData hfirst hdata fun d hd' hs => hd ⟨d, hd', hs⟩⟩
    · exact ⟨_, .otherScheme hfirst hk hdata⟩
  · exact ⟨_, .relative hfirst hc⟩

/-- It says one thing only, and that is the verdict. -/
theorem judge_eq_iff : judge s = v ↔ FirstDelimiterRule s v := by
  refine ⟨fun h => ?_, FirstDelimiterRule.judge_eq⟩
  obtain ⟨w, hw⟩ := exists_firstDelimiterRule s
  rw [← h, hw.judge_eq]
  exact hw

/-- A text in lower case is safe if its scheme, if any, is allowed, or if it is made of the parts
of a data URL of an allowed type. -/
theorem judge_eq_safe_iff : judge s = .safe ↔ (∀ k, scheme? s = some k → k ∈ allowedSchemes) ∨
    ∃ d : DataUrl, d.WellFormed ∧ d.mediaType ∈ allowedMediaTypes ∧ s = d.render := by
  refine ⟨fun h => ?_, fun h => ?_⟩
  · cases hscheme : scheme? s with
    | none => exact .inl fun k hk => by cases hk
    | some k =>
      by_cases hk : k ∈ allowedSchemes
      · refine .inl fun k' hk' => ?_
        cases hk'
        exact hk
      by_cases hdata : k = dataScheme
      · rw [judge_of_dataScheme (hdata ▸ hscheme), judgeData] at h
        split at h
        · cases h
        · next d hparse =>
          obtain ⟨hd, hs⟩ := DataUrl.parse?_eq_some_iff.mp hparse
          split at h
          · next htype => exact .inr ⟨d, hd, htype, hs⟩
          · cases h
      · rw [judge_of_other hscheme hk hdata] at h
        cases h
  · rcases h with hall | ⟨d, hd, htype, hs⟩
    · cases hscheme : scheme? s with
      | none => exact judge_of_scheme?_eq_none hscheme
      | some k => exact judge_of_mem_allowedSchemes hscheme (hall k hscheme)
    · rw [hs, judge_of_dataScheme (scheme?_render d), judgeData_render hd, if_pos htype]

theorem isSafe_iff {url : String} : isSafe url = true ↔ judge (Text.lower url.toList) = .safe := by
  show (judge (Text.lower url.toList)).isSafe = true ↔ _
  cases judge (Text.lower url.toList) <;> simp [Verdict.isSafe]

/-- A scheme that is refused by name is neither allowed nor `data`, and has no delimiter in it. -/
theorem of_judge_eq_disallowedScheme {scheme : String}
    (h : judge s = .refused (.disallowedScheme scheme)) :
    scheme.toList ∉ allowedSchemes ∧ scheme.toList ≠ dataScheme ∧
      ∀ c ∈ scheme.toList, isDelimiter c = false := by
  cases judge_eq_iff.mp h with
  | otherScheme hfirst hk hdata =>
    rw [String.toList_ofList]
    exact ⟨hk, hdata, hfirst.forall_take⟩

/-- **The verdict is the one of the first delimiter.** Lower case moves the capital letters of
ASCII and nothing else; on the text in lower case the rule by the first delimiter gives the verdict
and no other one; the three patterns, tried in turn, give the same verdict; and a scheme that is
refused by name is none that another case of the rule is about. -/
theorem classify_by_first_delimiter (url : String) :
    Text.lower url.toList
        = url.toList.map (fun c => if 'A' ≤ c ∧ c ≤ 'Z' then Char.ofNat (c.toNat + 32) else c) ∧
      (∀ v, classify url = v ↔ FirstDelimiterRule (Text.lower url.toList) v) ∧
      classify url = judgeByPatterns (Text.lower url.toList) ∧
      ∀ scheme, classify url = .refused (.disallowedScheme scheme) →
        scheme.toList ∉ allowedSchemes ∧ scheme.toList ≠ dataScheme ∧
          ∀ c ∈ scheme.toList, isDelimiter c = false := by
  refine ⟨?_, fun v => judge_eq_iff, (judgeByPatterns_eq_judge _).symm, fun scheme h => ?_⟩
  · exact List.map_congr_left fun c _ => Text.toLower_eq_ite c
  · exact of_judge_eq_disallowedScheme h

/-- A payload ends with the text, and the Kelvin sign is no `k`. -/
example : classify "data:image/png;base64,AA==\n" = .refused .malformedDataUrl ∧
    classify "mail\u212Ato:x" = .refused (.disallowedScheme "mail\u212Ato") := by decide

end LinkGate.Url
