import LinkGate.Proofs.Command.Events
import LinkGate.Proofs.Command.Runs

/-!
# Where the log goes

A run tells its events in one place. It opens the log before it reads its arguments: a base
directory is looked up, the program's directory is made below it, and then the file is opened. If
all this succeeds the log is appended to the file; if there is no base directory, or one of the
steps fails, it is put in front of the error text.

* **`openFile_of_opens`**, **`openFile_of_not_opens`**: opening the log succeeds exactly where
  `LogOpens` says so, a statement on the tree alone. Either way no file changes.
* **`grows_outcome`**: the request writes no log. So an open log has its content until the end.
* **`writes_treeAfter`**: then one write adds the log to it. If the log is not open there is no
  such write, and nothing but the settings file is new (`grows_treeAfter_of_not_opens`).
* **`events_of_opens`**, **`opened_not_mem_outcome`**: that the log was opened is the first event of
  the run, and no request tells of it again.

The headline `one_sink` puts these together for all runs, whether they succeed, end in an error, or
are refused for their arguments.
-/

namespace LinkGate.Command

open Files Files.Tree

variable {texts : Texts} {t t' : Tree} {i : Invocation texts} {env : Environment} {base : Path}
  {d q : Place} {old content : Bytes} {settings : List Path}

/-! ## Opening the log -/

def withStateDirectory (t : Tree) (env : Environment) : Tree :=
  withProgramDirectory t env.stateBase?

theorem addsDirectories_withStateDirectory (t : Tree) (env : Environment) :
    ∃ p, AddsDirectories p t (withStateDirectory t env) :=
  addsDirectories_withProgramDirectory t env.stateBase?

/-- The log can be placed and opened in the directory at `d`: there is a base directory, the
program's directory below it is there or can be made, and then the path of the log names an entry of
`d`, which is a file with the content `old` or is not there yet. -/
structure LogOpens (t : Tree) (env : Environment) (base : Path) (d : Place) (old : Bytes) :
    Prop where
  below : env.stateBase? = some base
  placed : (t.createAll (programDirectory base)).2 = .ok ()
  named : (withStateDirectory t env).Names (logPath base) d Log.fileName
  content : (withStateDirectory t env).entryAt? (d ++ [Log.fileName]) = some (.file old) ∨
    (withStateDirectory t env).entryAt? (d ++ [Log.fileName]) = none ∧ old = []

/-- The log that opens is the user's. -/
theorem LogOpens.logPath?_eq (h : LogOpens t env base d old) :
    env.logPath? = some (logPath base) := by
  rw [Environment.logPath?, h.below]
  rfl

/-- The path of a log is not that of a directory, because the name is at its end. -/
theorem endsInSlash_logPath (base : Path) : (logPath base).endsInSlash = false := by
  unfold logPath Path.join Path.endsInSlash
  split <;> simp [Log.fileName, String.toList_append]

/-- Its last step is its name, so what it names has that name. -/
theorem eq_fileName_of_names {name : String} (h : t.Names (logPath base) d name) :
    name = Log.fileName := by
  obtain ⟨above, hsteps, -⟩ := h.steps
  rw [logPath, Path.steps_join (by decide) (by decide)] at hsteps
  -- both walks end in one step, so these steps are the same
  cases (List.append_inj' hsteps rfl).2
  rfl

/-- The second half of opening the log succeeds with the content that is there. -/
theorem LogOpens.openForWriting (h : LogOpens t env base d old) :
    (withStateDirectory t env).openForWriting (logPath base) = .ok (d, Log.fileName, old) :=
  openForWriting_eq_ok_iff.mpr ⟨h.named, endsInSlash_logPath base, h.content⟩

/-- Where the log can be opened it is, and a log that is there keeps its content. -/
theorem openFile_of_opens (h : LogOpens t env base d old) : Log.openFile t env
    = ((withStateDirectory t env).put d Log.fileName (.file old),
        some ⟨logPath base, d, Log.fileName⟩) := by
  have hplaced : t.createAll (programDirectory base) = (withStateDirectory t env, .ok ()) := by
    rw [withStateDirectory, h.below]
    exact Prod.ext rfl h.placed
  rw [openFile_eq t h.below, hplaced]
  simp only [h.openForWriting]

/-- Where it cannot be, nothing is made but directories. -/
theorem openFile_of_not_opens (h : ¬ ∃ base d old, LogOpens t env base d old) :
    Log.openFile t env = (withStateDirectory t env, none) := by
  cases hbase : env.stateBase? with
  | none =>
    rw [openFile_of_no_base t hbase, withStateDirectory, hbase]
    rfl
  | some base =>
    rw [openFile_eq t hbase]
    cases hall : t.createAll (programDirectory base) with
    | mk made result =>
      obtain rfl : withStateDirectory t env = made := by
        rw [withStateDirectory, hbase, withProgramDirectory, hall]
      cases result with
      | error cause => rfl
      | ok _ =>
        cases hopen : (withStateDirectory t env).openForWriting (logPath base) with
        | error cause => simp only [hopen]
        | ok target =>
          -- the log could be opened after all
          obtain ⟨d, name, old⟩ := target
          obtain ⟨hnames, -, hcontent⟩ := openForWriting_eq_ok_iff.mp hopen
          obtain rfl := eq_fileName_of_names hnames
          exact absurd ⟨base, d, old, hbase, by rw [hall], hnames, hcontent⟩ h

/-! ## The tree after a run -/

/-- Growth without a log keeps every file. -/
theorem Grows.kept (h : Grows [] settings t t') (hfile : t.entryAt? q = some (.file content)) :
    t'.entryAt? q = some (.file content) := by
  rcases h.files q content hfile with hsame | ⟨⟨p, hp, -⟩, -⟩
  · exact hsame
  · cases hp

/-- A request changes no file, and the one new file it may leave is the settings file. -/
theorem grows_outcome (i : Invocation texts) (t : Tree) :
    Grows [] i.env.settingsPath?.toList (i.opened t) (i.outcome t).tree :=
  grows_perform _ i fun _ => List.Subset.refl _

/-- Without an open log this is so for the whole run. -/
theorem grows_treeAfter_of_not_opens (h : ¬ ∃ base d old, LogOpens t i.env base d old) :
    Grows [] i.env.settingsPath?.toList t (i.treeAfter t) := by
  have hopen := openFile_of_not_opens h
  have hopened : Grows [] i.env.settingsPath?.toList t (i.opened t) := by
    rw [Invocation.opened, hopen]
    obtain ⟨p, hadds⟩ := addsDirectories_withStateDirectory t i.env
    exact grows_of_addsDirectories hadds
  rw [Invocation.treeAfter_eq, hopen]
  exact hopened.trans (grows_outcome i t)

section

variable (h : LogOpens t i.env base d old)

include h

/-- Opening the log puts it in the tree if it is not there. -/
theorem writes_opened : Writes (logPath base) (d ++ [Log.fileName]) old
    (withStateDirectory t i.env) (i.opened t) := by
  rw [Invocation.opened, openFile_of_opens h]
  exact writes_of_openForWriting h.openForWriting

/-- While the request is carried out an open log keeps its content. -/
theorem entryAt?_outcome_of_opens :
    (i.outcome t).tree.entryAt? (d ++ [Log.fileName]) = some (.file old) := by
  apply (grows_outcome i t).kept
  rw [(writes_opened h).entryAt?_eq, if_pos rfl]

/-- The last step of a run with an open log is one write, of the old content and the lines that are
shown. -/
theorem writes_treeAfter :
    Writes (logPath base) (d ++ [Log.fileName]) (old ++ Text.toBytes (i.log t)) (i.outcome t).tree
      (i.treeAfter t) := by
  have hfile := entryAt?_outcome_of_opens h
  have happend : i.treeAfter t = (i.outcome t).tree.put d Log.fileName
      (.file (old ++ Text.toBytes (i.log t))) := by
    rw [Invocation.treeAfter_eq, openFile_of_opens h]
    show Log.OpenFile.append ⟨logPath base, d, Log.fileName⟩ (i.outcome t).tree (i.log t) = _
    simp only [Log.OpenFile.append, entryAt?_eq_file_iff.mp hfile]
  -- the path of the log still names the entry that was opened
  have hext : (withStateDirectory t i.env).Extends (i.outcome t).tree :=
    (writes_opened h).extends.trans (grows_outcome i t).entries
  rw [happend]
  exact writes_put (hext.names h.named) (endsInSlash_logPath base) (by simp [hfile])

/-- What the log holds when it is opened it held before the run. -/
theorem content_of_opens : t.entryAt? (d ++ [Log.fileName]) = some (.file old) ∨
    t.entryAt? (d ++ [Log.fileName]) = none ∧ old = [] := by
  obtain ⟨p, hadds⟩ := addsDirectories_withStateDirectory t i.env
  rcases hadds (d ++ [Log.fileName]) with hsame | ⟨-, hdirectory, -⟩
  · rw [← hsame]
    exact h.content
  · -- only directories were made, and the log is none
    have hcontent := h.content
    rw [hdirectory] at hcontent
    simp at hcontent

/-- All other files come through the run unchanged. -/
theorem kept_treeAfter (hq : q ≠ d ++ [Log.fileName])
    (hfile : t.entryAt? q = some (.file content)) :
    (i.treeAfter t).entryAt? q = some (.file content) := by
  have hopened : (i.opened t).entryAt? q = some (.file content) := by
    obtain ⟨p, hadds⟩ := addsDirectories_withStateDirectory t i.env
    rw [(writes_opened h).entryAt?_eq, if_neg hq]
    exact hadds.kept hfile
  rw [(writes_treeAfter h).entryAt?_eq, if_neg hq]
  exact (grows_outcome i t).kept hopened

end

/-! ## The events of a request -/

/-- A batch has replacements and a summary for its events, and neither tells of the log. -/
theorem opened_not_mem_batch (options : BatchOptions) (urls : List String) (stream : List UInt8)
    (path : Path) : .opened path ∉ (Batch.run options urls stream).events := by
  rw [Batch.events_run, List.mem_append, not_or]
  constructor
  · intro h
    cases (Log.isReplacement_of_mem_rejections h).1
  · cases (Batch.run options urls stream).unreadLine with
    | some number => exact List.not_mem_nil
    | none =>
      intro h
      have hsummary := (Batch.isSummary_lastEvent options
        (Batch.countRefused (Batch.inputs options urls stream))).2
      rw [← List.mem_singleton.mp h] at hsummary
      cases hsummary

/-- Loading the settings does not tell of it either. -/
theorem opened_not_mem_sanitize (t : Tree) (env : Environment) (urls : List String)
    (format : Option OutputFormat) (stream : List UInt8) (path : Path) :
    .opened path ∉ (sanitize t env urls format stream).events := by
  have hloading : .opened path ∉ (Config.loadOrDefault t env).events := by
    intro h
    rcases eq_of_mem_loadOrDefault h with ⟨settings, hcreated⟩ | ⟨reason, hunavailable⟩
    · cases hcreated
    · cases hunavailable
  cases hresult : (Config.loadOrDefault t env).result with
  | error reason =>
    rw [sanitize_of_result_eq_error hresult]
    exact hloading
  | ok config =>
    rw [sanitize_of_result_eq_ok hresult]
    simp [hloading, opened_not_mem_batch]

/-- So no request does. -/
theorem opened_not_mem_outcome (i : Invocation texts) (t : Tree) (path : Path) :
    .opened path ∉ (i.outcome t).events := by
  unfold Invocation.outcome perform
  cases parse i.arguments with
  | error e => exact List.not_mem_nil
  | ok request =>
    have heffect : .opened path ∉ (execute texts (i.opened t) i.env i.stream request).events := by
      cases request with
      | sanitize urls format => exact opened_not_mem_sanitize _ _ _ _ _ path
      | check url strict =>
        rw [execute, check]
        split <;> exact List.not_mem_nil
      | href url =>
        intro h
        cases (Log.isReplacement_of_mem_rejections h).1
      | completions shell => exact List.not_mem_nil
      | man => exact List.not_mem_nil
      | help verb => exact List.not_mem_nil
    simp only
    split <;> exact heffect

/-- The first event of a run with an open log tells that it was opened, and where. -/
theorem events_of_opens (h : LogOpens t i.env base d old) :
    i.events t = .opened (logPath base) :: (i.outcome t).events := by
  rw [Invocation.events, Invocation.opening, openFile_of_opens h]
  rfl

/-- Without an open log all events are those of the request. -/
theorem events_of_not_opens (h : ¬ ∃ base d old, LogOpens t i.env base d old) :
    i.events t = (i.outcome t).events := by
  rw [Invocation.events, Invocation.opening, openFile_of_not_opens h]
  rfl

/-! ## The error text besides the log -/

/-- Besides the log a run writes nothing to the standard error if it succeeds, one error of its own
if it fails, and what the reader of the command line says if its arguments are refused. -/
theorem error_outcome (i : Invocation texts) (t : Tree) :
    (i.outcome t).exitCode = 0 ∧ (i.outcome t).error = "" ∨
      ((i.outcome t).exitCode = 1 ∧
        ∃ failure : Failure, (i.outcome t).error = errorLine (failure.message texts)) ∨
      (i.outcome t).exitCode = 2 ∧ (i.outcome t).error = texts.refusal i.arguments := by
  unfold Invocation.outcome perform
  cases parse i.arguments with
  | error e => exact .inr (.inr ⟨rfl, rfl⟩)
  | ok request =>
    simp only
    split
    · exact .inl ⟨rfl, rfl⟩
    · next failure _ => exact .inr (.inl ⟨rfl, failure, rfl⟩)

/-- Refused arguments are told by the exit code and without an event. -/
theorem events_of_refused {e : UsageError} (h : parse i.arguments = .error e) :
    (i.outcome t).exitCode = 2 ∧ (i.outcome t).events = [] := by
  unfold Invocation.outcome perform
  rw [h]
  exact ⟨rfl, rfl⟩

/-! ## One place for all events -/

/-- The run with another setting of what is logged. -/
def Invocation.showing (i : Invocation texts) (setting : Option String) : Invocation texts :=
  { i with env := { i.env with logFilter := setting } }

/-- What is logged is decided after everything else is done. -/
theorem outcome_showing (i : Invocation texts) (t : Tree) (setting : Option String) :
    (i.showing setting).outcome t = i.outcome t := by
  -- neither opening the log nor carrying out a request reads the setting
  rfl

/-- What a run leaves if its log is the file in the directory at `d` that had the content `old`. -/
structure LoggedToFile (i : Invocation texts) (t : Tree) (base : Path) (d : Place) (old : Bytes) :
    Prop where
  before : t.entryAt? (d ++ [Log.fileName]) = some (.file old) ∨
    t.entryAt? (d ++ [Log.fileName]) = none ∧ old = []
  leadsTo : (i.treeAfter t).LeadsTo (logPath base) (d ++ [Log.fileName])
  appended : (i.treeAfter t).entryAt? (d ++ [Log.fileName])
    = some (.file (old ++ Text.toBytes (Log.linesOf
        ((.opened (logPath base) :: (i.outcome t).events).filter
          (Log.Filter.ofSetting i.env.logFilter).admits))))
  kept : ∀ q content, q ≠ d ++ [Log.fileName] → t.entryAt? q = some (.file content) →
    (i.treeAfter t).entryAt? q = some (.file content)
  errors : (i.report t).errors = (i.outcome t).error

/-- What a run leaves if its log is no file. -/
structure LoggedToErrors (i : Invocation texts) (t : Tree) : Prop where
  grows : Grows [] i.env.settingsPath?.toList t (i.treeAfter t)
  errors : (i.report t).errors = Log.linesOf
    ((i.outcome t).events.filter (Log.Filter.ofSetting i.env.logFilter).admits)
      ++ (i.outcome t).error

/-- The events of a run are told in one place. -/
structure OneSink (i : Invocation texts) (t : Tree) : Prop where
  to_file : ∀ base d old, LogOpens t i.env base d old → LoggedToFile i t base d old
  to_errors : (¬ ∃ base d old, LogOpens t i.env base d old) → LoggedToErrors i t
  /-- That the log is a file is told by opening it and by nothing else. -/
  opened_once : ∀ path, .opened path ∉ (i.outcome t).events
  /-- Besides the log there is at most the line of an error, or what the reader of the command line
  says. -/
  error : (i.report t).exitCode = 0 ∧ (i.outcome t).error = "" ∨
    ((i.report t).exitCode = 1 ∧
      ∃ failure : Failure, (i.outcome t).error = errorLine (failure.message texts)) ∨
    (i.report t).exitCode = 2 ∧ (i.outcome t).error = texts.refusal i.arguments
  refused : ∀ e, parse i.arguments = .error e →
    (i.report t).exitCode = 2 ∧ (i.outcome t).events = []
  /-- The output is the same whatever is shown, also if nothing is. -/
  output : ∀ setting, ((i.showing setting).report t).output = (i.report t).output
  silent : ∃ setting, ∀ e, (Log.Filter.ofSetting setting).admits e = false

/-- Where the log opens, the run is told in its file. -/
theorem loggedToFile_of_opens (h : LogOpens t i.env base d old) :
    LoggedToFile i t base d old where
  before := content_of_opens h
  leadsTo := (writes_treeAfter h).leadsTo
  appended := by
    rw [(writes_treeAfter h).entryAt?_eq, if_pos rfl, Invocation.log_eq, events_of_opens h]
  kept _ _ hq hfile := kept_treeAfter h hq hfile
  errors := by
    rw [Invocation.errors_eq, openFile_of_opens h]
    exact String.empty_append

/-- Where it does not, the run is told in front of the error text. -/
theorem loggedToErrors_of_not_opens (h : ¬ ∃ base d old, LogOpens t i.env base d old) :
    LoggedToErrors i t where
  grows := grows_treeAfter_of_not_opens h
  errors := by
    rw [Invocation.errors_eq, openFile_of_not_opens h, Invocation.log_eq, events_of_not_opens h]
    rfl

/-- **One sink.** If the log can be placed and opened, a run appends to it what is shown of its
events, the first of which is that the log was opened, and writes them nowhere else. If not, no
file changes and the events without that first one are put in front of the error text. The standard
output has no part in it. All this holds for runs that succeed, that end in an error, and that are
refused for their arguments. -/
theorem one_sink (i : Invocation texts) (t : Tree) : OneSink i t where
  to_file _ _ _ := loggedToFile_of_opens
  to_errors := loggedToErrors_of_not_opens
  opened_once := opened_not_mem_outcome i t
  error := by
    rw [Invocation.exitCode_report]
    exact error_outcome i t
  refused e h := by
    rw [Invocation.exitCode_report]
    exact events_of_refused h
  output setting := by
    rw [Invocation.output_report, Invocation.output_report, outcome_showing]
  silent := ⟨some "", fun _ => rfl⟩

/-- Where a file stands in the way of the directory, the log is in the error text. -/
example : ((Invocation.ofArguments ["href", "javascript:1"]).report
      ⟨[("home", .directory [(".local", .file [])])]⟩).errors
    = "DEBUG safeurl_core::url_model::sanitized: replacing unsafe url " ++
        "reason=disallowed scheme \"javascript\" len=12\n" := by decide +kernel

end LinkGate.Command
