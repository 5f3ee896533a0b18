import LinkGate.Proofs.Command.Events
import LinkGate.Proofs.Url.Verdict

/-!
# What the log keeps to itself

A refused URL may hold a secret, so the log gives the reason of the refusal and the length of the
URL and nothing else of it. Said of two lists of URLs: if they are `Alike` place by place, that is,
if at each place both URLs are safe or both are refused for reasons and with lengths that agree,
then no log can tell the lists apart (`events_eq_of_alike`). What stands after the scheme of a URL,
the payload of a data URL and every safe URL do not matter.

The functions that judge and sanitize are taken here with the events on the way to their results,
as `Logged` values; their values are those of the functions without events.
-/

namespace LinkGate.Log

open Text Url

variable {α β : Type} {url url' : String} {urls urls' : List String} {k r : List Char} {d : DataUrl}

/-! ## Values with their events -/

/-- A value with the events that were logged on the way to it. -/
structure Logged (α : Type) where
  value : α
  events : List Event

namespace Logged

def silent (a : α) : Logged α := ⟨a, []⟩

def record (e : Event) : Logged Unit := ⟨(), [e]⟩

def andThen (x : Logged α) (f : α → Logged β) : Logged β :=
  ⟨(f x.value).value, x.events ++ (f x.value).events⟩

def all (f : α → Logged β) : List α → Logged (List β)
  | [] => silent []
  | a :: rest => (f a).andThen fun b => (all f rest).andThen fun bs => silent (b :: bs)

def classify (url : String) : Logged Verdict :=
  silent (Url.classify url)

def isSafe (url : String) : Logged Bool :=
  (classify url).andThen fun verdict => silent verdict.isSafe

def sanitizeWithVerdict (url : String) : Logged (SanitizedUrl × Verdict) :=
  (classify url).andThen fun verdict =>
    match verdict.reason? with
    | none => silent (Url.sanitize url, verdict)
    | some reason =>
      (record (.replaced reason (toBytes url).length)).andThen fun _ =>
        silent (SanitizedUrl.innocuous, verdict)

def sanitize (url : String) : Logged SanitizedUrl :=
  (sanitizeWithVerdict url).andThen fun result => silent result.1

@[simp] theorem events_silent (a : α) : (silent a).events = [] := rfl

@[simp] theorem events_andThen (x : Logged α) (f : α → Logged β) :
    (x.andThen f).events = x.events ++ (f x.value).events := rfl

/-- The events of a list are those of its members, one after another. -/
theorem events_all (f : α → Logged β) (as : List α) :
    (all f as).events = as.flatMap fun a => (f a).events := by
  induction as with
  | nil => rfl
  | cons a as ih =>
    rw [all, events_andThen, events_andThen, events_silent, List.append_nil, ih, List.flatMap_cons]

/-- To classify a URL logs nothing. -/
theorem classify_eq (url : String) : classify url = ⟨Url.classify url, []⟩ := rfl

/-- To ask whether a URL is safe logs nothing. -/
theorem isSafe_eq (url : String) : isSafe url = ⟨Url.isSafe url, []⟩ := rfl

/-- To sanitize a URL with its verdict logs its rejection, if it is refused. -/
theorem sanitizeWithVerdict_eq (url : String) :
    sanitizeWithVerdict url = ⟨Url.sanitizeWithVerdict url, (rejection? url).toList⟩ := by
  unfold sanitizeWithVerdict classify andThen silent
  cases hverdict : Url.classify url with
  | safe =>
    rw [rejection?_of_isSafe (isSafe_eq_true_iff.mpr hverdict), Url.sanitizeWithVerdict, hverdict]
    rfl
  | refused reason =>
    have hunsafe : ¬ Url.isSafe url = true := by simp [isSafe_eq_true_iff, hverdict]
    rw [rejection?_of_refused hverdict, Url.sanitizeWithVerdict, sanitize_of_not_isSafe hunsafe,
      hverdict]
    rfl

/-- To sanitize it without the verdict logs the same. -/
theorem sanitize_eq (url : String) :
    sanitize url = ⟨Url.sanitize url, (rejection? url).toList⟩ := by
  rw [sanitize, sanitizeWithVerdict_eq, andThen, silent, List.append_nil]
  rfl

/-- What logs the rejection of each URL logs those of a list in order. -/
theorem events_of_forall (f : String → Logged β)
    (hf : ∀ url, (f url).events = (rejection? url).toList) (urls : List String) :
    (all f urls).events = rejections urls := by
  rw [events_all]
  induction urls with
  | nil => rfl
  | cons url urls ih => rw [List.flatMap_cons, hf, ih, rejections_cons]

end Logged

/-! ## URLs that the log cannot tell apart -/

/-- Two URLs are refused for one reason, told by their texts. Letter case does not count. -/
inductive AlikeRefused (url url' : String) : Prop
  /-- What stands before the first colon of both is the same, and is no scheme that another case is
  about. -/
  | scheme {k r k' r' : List Char} (hurl : url.toList = k ++ ':' :: r) (hk : ':' ∉ k)
    (hurl' : url'.toList = k' ++ ':' :: r') (hk' : ':' ∉ k') (hsame : lower k = lower k')
    (hallowed : lower k ∉ allowedSchemes) (hdata : lower k ≠ dataScheme)
  /-- Both are made of the parts of a data URL, and the media type is the same. -/
  | mediaType {d d' : DataUrl} (hurl : lower url.toList = d.render) (hd : d.WellFormed)
    (hurl' : lower url'.toList = d'.render) (hd' : d'.WellFormed)
    (hsame : d.mediaType = d'.mediaType)
  /-- Both begin like a data URL and are not made of the parts of one. -/
  | malformed (hurl : DataUrl.opening <+: lower url.toList)
    (hd : ∀ d : DataUrl, d.WellFormed → lower url.toList ≠ d.render)
    (hurl' : DataUrl.opening <+: lower url'.toList)
    (hd' : ∀ d : DataUrl, d.WellFormed → lower url'.toList ≠ d.render)

/-- Two URLs of which the log says the same: both are safe, or both are refused, are as long, and
are refused for one reason. -/
inductive Alike (url url' : String) : Prop
  | safe (h : Url.isSafe url = true) (h' : Url.isSafe url' = true)
  | refused (h : Url.isSafe url = false) (h' : Url.isSafe url' = false)
    (hlength : (toBytes url).length = (toBytes url').length) (hreason : AlikeRefused url url')

theorem colon_not_mem_lower (h : ':' ∉ k) : ':' ∉ lower k := by
  intro hmem
  obtain ⟨c, hc, hlower⟩ := List.mem_map.mp hmem
  rw [toLower_eq_iff (by decide)] at hlower
  exact h (hlower ▸ hc)

theorem takeWhile_append_colon (h : ':' ∉ k) : (k ++ ':' :: r).takeWhile (· != ':') = k := by
  refine takeWhile_append_of_endsRun (fun c hc => ?_) (endsRun_cons.mpr (by decide))
  simpa using ne_of_mem_of_not_mem hc h

/-- The text before the first colon of a refused URL is its scheme. -/
theorem classify_of_colon (h : Url.isSafe url = false) (hurl : url.toList = k ++ ':' :: r)
    (hk : ':' ∉ k) (hallowed : lower k ∉ allowedSchemes) (hdata : lower k ≠ dataScheme) :
    Url.classify url = .refused (.disallowedScheme (String.ofList (lower k))) := by
  have hlower : lower url.toList = lower k ++ ':' :: lower r := by
    rw [hurl, lower_append, lower_cons]
    rfl
  cases hscheme : scheme? (lower url.toList) with
  | none =>
    rw [isSafe_iff.mpr (judge_of_scheme?_eq_none hscheme)] at h
    cases h
  | some k' =>
    -- the scheme ends at the first colon too
    have hbefore := takeWhile_eq_scheme hscheme
    rw [hlower, takeWhile_append_colon (colon_not_mem_lower hk)] at hbefore
    subst hbefore
    rw [Url.classify, judge_of_other hscheme hallowed hdata]

/-- A refused data URL with a media type is refused for that type. -/
theorem classify_of_parts (h : Url.isSafe url = false) (hurl : lower url.toList = d.render)
    (hd : d.WellFormed) :
    Url.classify url = .refused (.disallowedMediaType (String.ofList d.mediaType)) := by
  have hverdict : Url.classify url = if d.mediaType ∈ allowedMediaTypes then .safe
      else .refused (.disallowedMediaType (String.ofList d.mediaType)) := by
    rw [Url.classify, hurl, judge_of_dataScheme (scheme?_render d), judgeData_render hd]
  split at hverdict
  · rw [isSafe_eq_true_iff.mpr hverdict] at h
    cases h
  · exact hverdict

/-- What begins as a data URL and is none is refused as malformed. -/
theorem classify_of_opening (hurl : DataUrl.opening <+: lower url.toList)
    (hd : ∀ d : DataUrl, d.WellFormed → lower url.toList ≠ d.render) :
    Url.classify url = .refused .malformedDataUrl := by
  have hscheme : scheme? (lower url.toList) = some dataScheme :=
    opening_isPrefixOf_iff.mp (List.isPrefixOf_iff_prefix.mpr hurl)
  rw [Url.classify, judge_of_dataScheme hscheme, judgeData_of_forall_ne hd]

/-- Two refused URLs that are alike are refused for one reason. -/
theorem AlikeRefused.classify_eq (h : AlikeRefused url url') (hurl : Url.isSafe url = false)
    (hurl' : Url.isSafe url' = false) :
    ∃ reason, Url.classify url = .refused reason ∧ Url.classify url' = .refused reason := by
  cases h with
  | scheme heq hk heq' hk' hsame hallowed hdata =>
    refine ⟨_, classify_of_colon hurl heq hk hallowed hdata, ?_⟩
    rw [hsame] at hallowed hdata ⊢
    exact classify_of_colon hurl' heq' hk' hallowed hdata
  | mediaType heq hd heq' hd' hsame =>
    refine ⟨_, classify_of_parts hurl heq hd, ?_⟩
    rw [hsame]
    exact classify_of_parts hurl' heq' hd'
  | malformed heq hd heq' hd' =>
    exact ⟨_, classify_of_opening heq hd, classify_of_opening heq' hd'⟩

/-- URLs that are alike have the same rejection, or have none. -/
theorem Alike.rejection?_eq (h : Alike url url') : rejection? url = rejection? url' := by
  cases h with
  | safe h h' => rw [rejection?_of_isSafe h, rejection?_of_isSafe h']
  | refused h h' hlength hreason =>
    obtain ⟨reason, hclassify, hclassify'⟩ := hreason.classify_eq h h'
    rw [rejection?_of_refused hclassify, rejection?_of_refused hclassify', hlength]

theorem rejections_eq_of_alike (h : List.Forall₂ Alike urls urls') :
    rejections urls = rejections urls' := by
  induction h with
  | nil => rfl
  | cons halike _ ih => rw [rejections_cons, rejections_cons, halike.rejection?_eq, ih]

end LinkGate.Log

namespace LinkGate.Command

open Files Log

variable {texts : Texts} {t : Tree} {i i' : Invocation texts} {urls urls' : List String}
  {format : Option OutputFormat}

/-! ## Runs -/

/-- Lists that are alike have as many refused URLs. -/
theorem Batch.countRefused_eq_of_alike (h : List.Forall₂ Alike urls urls') :
    countRefused urls = countRefused urls' := by
  rw [← length_rejections, ← length_rejections, rejections_eq_of_alike h]

/-- Of a batch of given URLs nothing but the output tells more than the log may. -/
theorem Batch.ofUrls_eq_of_alike (options : BatchOptions) (h : List.Forall₂ Alike urls urls') :
    ofUrls options urls'
      = { ofUrls options urls with output := outputForAll options.format urls' } := by
  rw [ofUrls, ofUrls, rejections_eq_of_alike h, countRefused_eq_of_alike h]

/-- To carry out the request for one list or the other differs in the output alone. -/
theorem sanitize_eq_of_alike {env : Environment} {stream stream' : List UInt8}
    (h : List.Forall₂ Alike urls urls') (hne : urls ≠ []) : ∃ output,
      sanitize t env urls' format stream'
        = { sanitize t env urls format stream with output := output } := by
  have hne' : urls' ≠ [] := by
    rintro rfl
    cases h
    exact hne rfl
  cases hresult : (Config.loadOrDefault t env).result with
  | error reason =>
    rw [sanitize_of_result_eq_error hresult, sanitize_of_result_eq_error hresult]
    exact ⟨"", rfl⟩
  | ok config =>
    rw [sanitize_of_result_eq_ok hresult, sanitize_of_result_eq_ok hresult,
      Batch.run_of_ne_nil hne, Batch.run_of_ne_nil hne', Batch.ofUrls_eq_of_alike _ h]
    exact ⟨_, rfl⟩

/-- Two runs for lists that are alike have the same events and error text and leave the same tree.
-/
theorem Invocation.log_congr_of_alike (h : List.Forall₂ Alike urls urls') (hne : urls ≠ [])
    (henv : i.env = i'.env) (hasks : i.Asks (.sanitize urls format))
    (hasks' : i'.Asks (.sanitize urls' format)) :
    i.events t = i'.events t ∧ i.treeAfter t = i'.treeAfter t ∧
      (i.report t).errors = (i'.report t).errors := by
  have hopened : i'.opened t = i.opened t := by rw [opened, opened, henv]
  obtain ⟨output, heffect⟩ : ∃ output, i'.effect t (.sanitize urls' format)
      = { i.effect t (.sanitize urls format) with output := output } := by
    rw [effect, effect, hopened, ← henv]
    exact sanitize_eq_of_alike h hne
  refine log_congr henv ?_ ?_ ?_ <;>
    rw [outcome_of_asks hasks, outcome_of_asks hasks', heffect]

/-- **The log tells the reason and the length, and nothing else of a URL.** Two lists of URLs that
are alike place by place have the same events, whether they are sanitized with their verdicts or
without. So have two runs that are given them as arguments and start in the same way; and as nothing
but the output is different, neither the log file nor the error text tells the lists apart. A
verdict by itself is not logged at all, neither by the function nor by a run that checks. -/
theorem events_eq_of_alike (h : List.Forall₂ Alike urls urls') :
    (Logged.all Logged.sanitize urls).events = (Logged.all Logged.sanitize urls').events ∧
      (Logged.all Logged.sanitizeWithVerdict urls).events
        = (Logged.all Logged.sanitizeWithVerdict urls').events ∧
      (∀ {texts : Texts} {i i' : Invocation texts} {t : Tree} {format : Option OutputFormat},
        i.env = i'.env → i.Asks (.sanitize urls format) → i'.Asks (.sanitize urls' format) →
        (urls = [] → i.stream = i'.stream) →
          i.events t = i'.events t ∧ i.treeAfter t = i'.treeAfter t ∧
            (i.report t).errors = (i'.report t).errors) ∧
      ∀ url, (Logged.classify url).events = [] ∧ (Logged.isSafe url).events = [] ∧
        ∀ {texts : Texts} {i : Invocation texts} {t : Tree} {strict : Bool},
          i.Asks (.check url strict) → i.events t = i.opening t := by
  have hsanitize := Logged.events_of_forall Logged.sanitize
    fun url => by rw [Logged.sanitize_eq]
  have hwithVerdict := Logged.events_of_forall Logged.sanitizeWithVerdict
    fun url => by rw [Logged.sanitizeWithVerdict_eq]
  refine ⟨?_, ?_, ?_, fun url => ⟨?_, ?_, fun hasks => ?_⟩⟩
  · rw [hsanitize, hsanitize, rejections_eq_of_alike h]
  · rw [hwithVerdict, hwithVerdict, rejections_eq_of_alike h]
  · intro texts i i' t format henv hasks hasks' hstream
    by_cases hne : urls = []
    · -- both runs read the same input
      subst hne
      cases h
      have heffect : i.effect t (.sanitize [] format) = i'.effect t (.sanitize [] format) := by
        rw [Invocation.effect, Invocation.effect, Invocation.opened, Invocation.opened, henv,
          hstream rfl]
      obtain ⟨hreport, htree, hevents⟩ :=
        Invocation.run_congr henv (Invocation.outcome_congr hasks hasks' heffect)
      exact ⟨hevents, htree, congrArg Report.errors hreport⟩
    · exact Invocation.log_congr_of_alike h hne henv hasks hasks'
  · rw [Logged.classify_eq]
  · rw [Logged.isSafe_eq]
  · rw [Invocation.events_of_asks hasks, Invocation.effect, execute, check]
    cases Url.classify url <;> exact List.append_nil _

/-- One pair of each kind; the two runs have the same events. -/
theorem events_eq_of_alike_scripts :
    let urls := ["JavaScript:alert(1)", "/home", "data:text/html;base64,AAAA", "data:,x"]
    let urls' := ["javascript:steal(2)", "?key=3", "DATA:TEXT/HTML;base64,BB==", "data:;y"]
    let i := Invocation.ofArguments ("sanitize" :: urls)
    let i' := Invocation.ofArguments ("sanitize" :: urls')
    List.Forall₂ Alike urls urls' ∧ i.Asks (.sanitize urls none) ∧ i'.Asks (.sanitize urls' none) ∧
      (Logged.all Logged.sanitize urls).events = (Logged.all Logged.sanitize urls').events ∧
        i.events .empty = i'.events .empty := by
  intro urls urls' i i'
  have hscript : Alike "JavaScript:alert(1)" "javascript:steal(2)" :=
    .refused (by decide) (by decide) (by decide) <| .scheme
      (show _ = "JavaScript".toList ++ ':' :: "alert(1)".toList by decide)
      (by decide)
      (show _ = "javascript".toList ++ ':' :: "steal(2)".toList by decide)
      (by decide) (by decide) (by decide) (by decide)
  have hpage : Alike "data:text/html;base64,AAAA" "DATA:TEXT/HTML;base64,BB==" :=
    .refused (by decide) (by decide) (by decide) <| .mediaType
      (show _ = (⟨"text/html".toList, "aaaa".toList, []⟩ : Url.DataUrl).render by decide)
      (by decide)
      (show _ = (⟨"text/html".toList, "bb".toList, "==".toList⟩ : Url.DataUrl).render by decide)
      (by decide) rfl
  have hmalformed : Alike "data:,x" "data:;y" :=
    .refused (by decide) (by decide) (by decide) <| .malformed
      (List.prefix_append _ _) (Url.DataUrl.parse?_eq_none_iff.mp (by decide))
      (List.prefix_append _ _) (Url.DataUrl.parse?_eq_none_iff.mp (by decide))
  have hurls : List.Forall₂ Alike urls urls' :=
    .cons hscript (.cons (.safe (by decide) (by decide)) (.cons hpage (.cons hmalformed .nil)))
  have hasks : i.Asks (.sanitize urls none) := eq_ok_of_toOption (by decide +kernel)
  have hasks' : i'.Asks (.sanitize urls' none) := eq_ok_of_toOption (by decide +kernel)
  obtain ⟨hlists, -, hruns, -⟩ := events_eq_of_alike hurls
  have henv : i.env = i'.env := rfl
  exact ⟨hurls, hasks, hasks', hlists, (hruns henv hasks hasks' fun _ => rfl).1⟩

end LinkGate.Command
