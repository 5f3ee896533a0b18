import LinkGate.Proofs.Command.PlainOutput
import LinkGate.Proofs.Config.Fallback

/-!
# The events of a run

A run tells its events in one of two ways: it appends what the filter shows of them to the log file,
or puts it in front of the error text (`treeAfter_eq`, `errors_eq`). Either way the events are those
of opening the log, of loading the settings, and of the request. A request to sanitize has the
events of its batch, which are one for each refused URL and, if all input could be read, one more
that counts them (`events_run`).
-/

namespace LinkGate.Log

variable {e : Event} {url : String} {urls : List String}

namespace Event

def isReplacement : Event → Bool
  | replaced .. => true
  | _ => false

def isSummary : Event → Bool
  | reported _ | finished _ => true
  | _ => false

end Event

/-- A safe URL is not logged. -/
theorem rejection?_of_isSafe (h : Url.isSafe url = true) : rejection? url = none := by
  rw [rejection?, Url.isSafe_eq_true_iff.mp h]
  rfl

/-- A refused one is, with its reason and its length in bytes. -/
theorem rejection?_of_refused {reason : Url.Reason} (h : Url.classify url = .refused reason) :
    rejection? url = some (.replaced reason (Text.toBytes url).length) := by
  rw [rejection?, h]
  rfl

theorem exists_rejection?_of_not_isSafe (h : ¬ Url.isSafe url = true) :
    ∃ reason, rejection? url = some (.replaced reason (Text.toBytes url).length) := by
  cases hverdict : Url.classify url with
  | safe => exact absurd (Url.isSafe_eq_true_iff.mpr hverdict) h
  | refused reason => exact ⟨reason, rejection?_of_refused hverdict⟩

theorem rejections_cons (url : String) (urls : List String) :
    rejections (url :: urls) = (rejection? url).toList ++ rejections urls := by
  rw [rejections, List.filterMap_cons]
  cases rejection? url <;> rfl

/-- The events of single URLs are no summaries. -/
theorem isReplacement_of_mem_rejections (h : e ∈ rejections urls) :
    e.isReplacement = true ∧ e.isSummary = false := by
  obtain ⟨url, -, hevent⟩ := List.mem_filterMap.mp h
  by_cases hsafe : Url.isSafe url = true
  · rw [rejection?_of_isSafe hsafe] at hevent
    cases hevent
  · obtain ⟨reason, hreason⟩ := exists_rejection?_of_not_isSafe hsafe
    rw [hreason] at hevent
    cases hevent
    exact ⟨rfl, rfl⟩

end LinkGate.Log

namespace LinkGate.Command

open Files

variable {options : BatchOptions} {urls : List String} {stream : List UInt8} {number : Nat}

/-! ## The events of a batch -/

namespace Batch

theorem inputs_nil (options : BatchOptions) (stream : List UInt8) :
    inputs options [] stream = keptLines options (Text.Lines.read stream).texts := rfl

/-- If URLs are given they are the batch. -/
theorem inputs_of_ne_nil (hne : urls ≠ []) (stream : List UInt8) :
    inputs options urls stream = urls := by
  rw [inputs, if_neg (by simpa using hne)]

/-- The input does not matter then. -/
theorem run_of_ne_nil (hne : urls ≠ []) (stream : List UInt8) :
    run options urls stream = ofUrls options urls := by
  rw [run, if_neg (by simpa using hne)]

/-- There is one event for each refused URL. -/
theorem length_rejections (urls : List String) :
    (Log.rejections urls).length = countRefused urls := by
  induction urls with
  | nil => rfl
  | cons url urls ih =>
    rw [countRefused] at ih
    rw [Log.rejections_cons, List.length_append, ih, countRefused, List.countP_cons]
    by_cases hsafe : Url.isSafe url = true
    · simp [Log.rejection?_of_isSafe hsafe, hsafe]
    · obtain ⟨reason, hreason⟩ := Log.exists_rejection?_of_not_isSafe hsafe
      simp [hreason, hsafe, Nat.add_comm]

/-- The last event of a batch is a summary, whether or not it reports. -/
theorem isSummary_lastEvent (options : BatchOptions) (n : Nat) :
    (lastEvent options n).isReplacement = false ∧ (lastEvent options n).isSummary = true := by
  unfold lastEvent
  split <;> exact ⟨rfl, rfl⟩

/-- Only the input can have a line that stops a batch. -/
theorem unreadLine_run (options : BatchOptions) (urls : List String) (stream : List UInt8) :
    (run options urls stream).unreadLine
      = if urls.isEmpty then (Text.Lines.read stream).undecodable else none := by
  unfold run
  split
  · unfold ofStream
    simp only
    split
    · next h => exact h.symm
    · next number h => exact h.symm
  · rfl

/-- A batch ends with its last event unless it was stopped. -/
theorem events_run (options : BatchOptions) (urls : List String) (stream : List UInt8) :
    (run options urls stream).events = Log.rejections (inputs options urls stream) ++
      (run options urls stream).unreadLine.elim
        [lastEvent options (countRefused (inputs options urls stream))] fun _ => [] := by
  unfold run inputs
  split
  · unfold ofStream
    simp only
    cases (Text.Lines.read stream).undecodable with
    | none => rfl
    | some number => exact (List.append_nil _).symm
  · rfl

end Batch

/-! ## What is sanitized with the settings -/

section

variable {t : Tree} {env : Environment} {format : Option OutputFormat}
  {urls' : List String} {stream' : List UInt8}

/-- Bad settings are the failure of a request to sanitize, and it has no output. -/
theorem sanitize_of_result_eq_error {reason : Config.Unusable}
    (h : (Config.loadOrDefault t env).result = .error reason) :
    sanitize t env urls format stream = ⟨"", (Config.loadOrDefault t env).events,
      some (.settings reason (Config.textAt (Config.loadOrDefault t env).tree reason.path)),
      (Config.loadOrDefault t env).tree⟩ := by
  simp only [sanitize, h]

/-- With settings the request is the batch, after the events of loading them. -/
theorem sanitize_of_result_eq_ok {config : Config}
    (h : (Config.loadOrDefault t env).result = .ok config) :
    sanitize t env urls format stream =
      ⟨(Batch.run (batchOptions config format) urls stream).output,
        (Config.loadOrDefault t env).events ++
          .loadedConfig config :: (Batch.run (batchOptions config format) urls stream).events,
        (Batch.run (batchOptions config format) urls stream).unreadLine.map .inputLine,
        (Config.loadOrDefault t env).tree⟩ := by
  simp only [sanitize, h]

/-- What is sanitized is the batch alone. -/
theorem sanitize_congr (h : ∀ config, (Config.loadOrDefault t env).result = .ok config →
      Batch.run (batchOptions config format) urls stream
        = Batch.run (batchOptions config format) urls' stream') :
    sanitize t env urls format stream = sanitize t env urls' format stream' := by
  cases hresult : (Config.loadOrDefault t env).result with
  | error reason => rw [sanitize_of_result_eq_error hresult, sanitize_of_result_eq_error hresult]
  | ok config =>
    rw [sanitize_of_result_eq_ok hresult, sanitize_of_result_eq_ok hresult, h config hresult]

end

/-! ## The events of a run -/

namespace Invocation

variable {texts : Texts} {i i' : Invocation texts} {t : Tree} {request : Request}

/-- The event of opening the log, if the log is a file. -/
def opening (i : Invocation texts) (t : Tree) : List Log.Event :=
  ((Log.openFile t i.env).2.map fun file => .opened file.path).toList

/-- All events of a run, whether the filter shows them or not. -/
def events (i : Invocation texts) (t : Tree) : List Log.Event :=
  i.opening t ++ (i.outcome t).events

def log (i : Invocation texts) (t : Tree) : String :=
  Log.shown (Log.Filter.ofSetting i.env.logFilter) (i.events t)

/-- The log is the events that the filter admits, a line each. -/
theorem log_eq (i : Invocation texts) (t : Tree) :
    i.log t
      = Log.linesOf ((i.events t).filter (Log.Filter.ofSetting i.env.logFilter).admits) := rfl

/-- The log is in front of the error text if it is not a file. -/
theorem errors_eq (i : Invocation texts) (t : Tree) :
    (i.report t).errors
      = (if (Log.openFile t i.env).2.isSome then "" else i.log t) ++ (i.outcome t).error := by
  unfold report log events opening outcome opened run
  cases Log.openFile t i.env with
  | mk made opened =>
    cases opened with
    | none => rfl
    | some file => exact String.empty_append.symm

/-- The log is appended to its file if there is one. -/
theorem treeAfter_eq (i : Invocation texts) (t : Tree) :
    i.treeAfter t = (Log.openFile t i.env).2.elim (i.outcome t).tree
      fun file => file.append (i.outcome t).tree (i.log t) := by
  unfold treeAfter log events opening outcome opened run
  cases Log.openFile t i.env with
  | mk made opened => cases opened <;> rfl

theorem report_ext {shown shown' : Report} (hexit : shown.exitCode = shown'.exitCode)
    (houtput : shown.output = shown'.output) (herrors : shown.errors = shown'.errors) :
    shown = shown' := by
  cases shown
  cases shown'
  cases hexit
  cases houtput
  cases herrors
  rfl

/-- Two runs that start in the same way log the same if their outcomes differ in no more than what
is written to the standard output. -/
theorem log_congr (henv : i.env = i'.env) (hevents : (i.outcome t).events = (i'.outcome t).events)
    (herror : (i.outcome t).error = (i'.outcome t).error)
    (htree : (i.outcome t).tree = (i'.outcome t).tree) :
    i.events t = i'.events t ∧ i.treeAfter t = i'.treeAfter t ∧
      (i.report t).errors = (i'.report t).errors := by
  have hall : i.events t = i'.events t := by
    rw [events, events, opening, opening, henv, hevents]
  have hlog : i.log t = i'.log t := by rw [log, log, henv, hall]
  refine ⟨hall, ?_, ?_⟩
  · rw [treeAfter_eq, treeAfter_eq, henv, hlog, htree]
  · rw [errors_eq, errors_eq, henv, hlog, herror]

/-- They show the same if their outcomes do not differ at all. -/
theorem run_congr (henv : i.env = i'.env) (houtcome : i.outcome t = i'.outcome t) :
    i.report t = i'.report t ∧ i.treeAfter t = i'.treeAfter t ∧ i.events t = i'.events t := by
  obtain ⟨hevents, htree, herrors⟩ := log_congr henv (congrArg Outcome.events houtcome)
    (congrArg Outcome.error houtcome) (congrArg Outcome.tree houtcome)
  have hexit : (i.report t).exitCode = (i'.report t).exitCode := by
    rw [exitCode_report, exitCode_report, houtcome]
  have houtput : (i.report t).output = (i'.report t).output := by
    rw [output_report, output_report, houtcome]
  exact ⟨report_ext hexit houtput herrors, htree, hevents⟩

/-- Runs with one effect have one outcome. -/
theorem outcome_congr {request' : Request} (h : i.Asks request) (h' : i'.Asks request')
    (heffect : i.effect t request = i'.effect t request') : i.outcome t = i'.outcome t := by
  rw [outcome_of_asks h, outcome_of_asks h', heffect]

/-- The events until the settings are known. -/
def preamble (i : Invocation texts) (t : Tree) : List Log.Event :=
  i.opening t ++ (Config.loadOrDefault (i.opened t) i.env).events

/-- A run tells of its log first and then of its request. -/
theorem events_of_asks (h : i.Asks request) :
    i.events t = i.opening t ++ (i.effect t request).events := by
  rw [events, outcome_of_asks h]

/-- A run that sanitizes loads the settings and then has the events of its batch. -/
theorem events_of_sanitizes (h : i.Sanitizes t urls options) : ∃ config,
    (Config.loadOrDefault (i.opened t) i.env).result = .ok config ∧
      i.events t = i.preamble t ++
        .loadedConfig config :: (Batch.run options urls i.stream).events := by
  obtain ⟨format, config, hasks, hconfig, rfl⟩ := h
  refine ⟨config, hconfig, ?_⟩
  rw [events_of_asks hasks, effect, execute, sanitize_of_result_eq_ok hconfig, preamble,
    List.append_assoc]

end Invocation

/-! ## Events before the batch -/

/-- Loading tells that the defaults were written, or that they could not be. -/
theorem eq_of_mem_loadOrDefault {t : Tree} {env : Environment} {e : Log.Event}
    (h : e ∈ (Config.loadOrDefault t env).events) :
    (∃ path, e = .createdConfig path) ∨ ∃ reason, e = .configUnavailable reason := by
  unfold Config.loadOrDefault at h
  split at h
  · next made path _ =>
    have hloads := Config.loadsTogether made path
    generalize Config.loadOrInitAt made path = init,
      Config.loadOrDefaultAt made path = fallback at hloads h
    cases hloads with
    | good | bad => exact absurd h List.not_mem_nil
    | written => exact .inl ⟨_, List.mem_singleton.mp h⟩
    | directory | unavailable => exact .inr ⟨_, List.mem_singleton.mp h⟩
  · exact .inr ⟨_, List.mem_singleton.mp h⟩

/-- No URL is sanitized before the settings are known. -/
theorem events_preamble {texts : Texts} (i : Invocation texts) (t : Tree) :
    ∀ e ∈ i.preamble t, e.isReplacement = false ∧ e.isSummary = false := by
  rw [Invocation.preamble, List.forall_mem_append]
  refine ⟨?_, fun e he => ?_⟩
  · rw [Invocation.opening]
    cases (Log.openFile t i.env).2 <;> simp [Log.Event.isReplacement, Log.Event.isSummary]
  · rcases eq_of_mem_loadOrDefault he with ⟨path, rfl⟩ | ⟨reason, rfl⟩
    · exact ⟨rfl, rfl⟩
    · exact ⟨rfl, rfl⟩

/-- The replacements among the events of a run are those of the refused URLs, whether or not a line
that cannot be read has stopped it. -/
theorem filter_isReplacement_events {texts : Texts} {i : Invocation texts} {t : Tree}
    (h : i.Sanitizes t urls options) :
    (i.events t).filter Log.Event.isReplacement
      = Log.rejections (Batch.inputs options urls i.stream) := by
  obtain ⟨config, -, hevents⟩ := Invocation.events_of_sanitizes h
  have hpreamble : (i.preamble t).filter Log.Event.isReplacement = [] :=
    List.filter_eq_nil_iff.mpr fun e he => by simp [(events_preamble i t e he).1]
  have hrejections : (Log.rejections (Batch.inputs options urls i.stream)).filter
      Log.Event.isReplacement = Log.rejections (Batch.inputs options urls i.stream) :=
    List.filter_eq_self.mpr fun e he => (Log.isReplacement_of_mem_rejections he).1
  rw [hevents, Batch.events_run, List.filter_append, hpreamble, List.nil_append,
    List.filter_cons_of_neg Bool.false_ne_true, List.filter_append, hrejections]
  cases (Batch.run options urls i.stream).unreadLine with
  | none => simp [(Batch.isSummary_lastEvent options _).1]
  | some number => exact List.append_nil _

end LinkGate.Command
