import LinkGate.Proofs.Command.Sink
import LinkGate.Proofs.Files.Repeated

/-!
# What the settings decide

A run that sanitizes looks for its settings after the log is open and the program's directory for
settings is made (`settingsTree`). No file of the user changes on the way, so the file that it finds
is one that was there before (`leadsToFile_of_hasSettings`). Then one of three things happens.

* **`stopsAtSettings`**: the file is bad. The run ends before the batch begins: it writes nothing,
  has no event but that of opening the log, and leaves the file as it is.
* **`loadOrDefault_of_good`**: the file is good, and its settings hold.
* **`loadOrDefault_of_no_settings`**: there is no file. Whether its directory cannot be made
  (`not_hasSettings_of_unplaced`), or the file is created, or it cannot be, the defaults hold.

Requests other than to sanitize do not look at the tree at all (`execute_congr`).
-/

namespace LinkGate.Command

open Files Files.Tree

variable {texts : Texts} {t t' : Tree} {i i' : Invocation texts} {base path : Path} {q : Place}
  {content : Bytes} {urls : List String} {format : Option OutputFormat} {config : Config}
  {reason : Config.Unusable}

namespace Invocation

/-- The tree in which a run looks for its settings. The log is open in it, and the program's
directory for settings is made, or as much of the way there as can be. -/
def settingsTree (i : Invocation texts) (t : Tree) : Tree :=
  (Config.locate (i.opened t) i.env).1

/-- The run finds a settings file at this path and with this content. -/
structure HasSettings (i : Invocation texts) (t : Tree) (path : Path) (content : Bytes) :
    Prop where
  path_eq : i.env.settingsPath? = some path
  leadsToFile : (i.settingsTree t).LeadsToFile path content

/-! ## The way to the settings -/

theorem settingsTree_eq (i : Invocation texts) (t : Tree) :
    i.settingsTree t = withProgramDirectory (i.opened t) i.env.configBase? := by
  rw [← tree_placeFile _ _ Config.fileName]
  unfold settingsTree Config.locate
  cases placeFile (i.opened t) i.env.configBase? Config.fileName with
  | mk made result => cases result <;> rfl

/-- Looking for the settings adds directories only. -/
theorem addsDirectories_settingsTree (i : Invocation texts) (t : Tree) :
    ∃ p, AddsDirectories p (i.opened t) (i.settingsTree t) := by
  rw [settingsTree_eq]
  exact addsDirectories_withProgramDirectory _ _

/-- Nothing is lost on the way to the settings. -/
theorem extends_settingsTree (i : Invocation texts) (t : Tree) : t.Extends (i.settingsTree t) := by
  have hopened : Grows i.env.logPath?.toList [] t (i.opened t) :=
    (grows_openFile [] t i.env (List.Subset.refl _)).1
  obtain ⟨p, hadds⟩ := addsDirectories_settingsTree i t
  exact hopened.entries.trans hadds.extends

theorem exists_base_of_settingsPath? (h : i.env.settingsPath? = some path) :
    ∃ base, i.env.configBase? = some base ∧ path = settingsPath base := by
  obtain ⟨base, hbase, rfl⟩ := Option.map_eq_some_iff.mp h
  exact ⟨base, hbase, rfl⟩

/-- The settings are not the log, because their names differ. -/
theorem ne_log_of_leadsTo (h : t.LeadsTo (settingsPath base) q) (d : Place) :
    q ≠ d ++ [Log.fileName] := by
  obtain ⟨d', rfl, -⟩ :=
    exists_of_leadsTo_join (by decide) (by decide) (programDirectory_text_ne _) h
  intro heq
  have hname := List.singleton_inj.mp (List.append_inj' heq rfl).2
  revert hname
  decide

/-- Opening the log changes no other file. -/
theorem entryAt?_opened (hq : ∀ d, q ≠ d ++ [Log.fileName]) :
    (i.opened t).entryAt? q = some (.file content) ↔ t.entryAt? q = some (.file content) := by
  obtain ⟨p, hadds⟩ := addsDirectories_withStateDirectory t i.env
  by_cases hopens : ∃ base d old, LogOpens t i.env base d old
  · obtain ⟨base, d, old, hopens⟩ := hopens
    rw [(writes_opened hopens).entryAt?_eq, if_neg (hq d)]
    exact hadds.entryAt?_eq_file_iff
  · rw [opened, openFile_of_not_opens hopens]
    exact hadds.entryAt?_eq_file_iff

/-- A file that is no log is the same before the run and when the settings are looked for. -/
theorem entryAt?_settingsTree (hq : ∀ d, q ≠ d ++ [Log.fileName]) :
    (i.settingsTree t).entryAt? q = some (.file content) ↔
      t.entryAt? q = some (.file content) := by
  obtain ⟨p, hadds⟩ := addsDirectories_settingsTree i t
  exact hadds.entryAt?_eq_file_iff.trans (entryAt?_opened hq)

/-- A settings file that is there before the run is found. -/
theorem hasSettings_of_leadsToFile (hpath : i.env.settingsPath? = some path)
    (h : t.LeadsToFile path content) : i.HasSettings t path content := by
  obtain ⟨base, -, rfl⟩ := exists_base_of_settingsPath? hpath
  obtain ⟨q, hleads, hfile⟩ := h
  exact ⟨hpath, q, (extends_settingsTree i t).leadsTo hleads,
    (entryAt?_settingsTree (ne_log_of_leadsTo hleads)).mpr hfile⟩

/-- No other is, unless a directory that is made gives way to it. -/
theorem leadsToFile_of_hasSettings (hups : t.ReachesUps path) (h : i.HasSettings t path content) :
    t.LeadsToFile path content := by
  obtain ⟨base, -, rfl⟩ := exists_base_of_settingsPath? h.path_eq
  obtain ⟨q, hleads, hfile⟩ := h.leadsToFile
  have hbefore := (entryAt?_settingsTree (ne_log_of_leadsTo hleads)).mp hfile
  exact ⟨q, (extends_settingsTree i t).leadsTo_of_reachesUps hups hleads (by simp [hbefore]),
    hbefore⟩

/-! ## Loading them -/

/-- A file that cannot be placed is not there. -/
theorem not_hasSettings_of_unplaced {cause : Config.Unavailable}
    (h : (Config.locate (i.opened t) i.env).2 = .error cause) : ¬ i.HasSettings t path content := by
  intro hsettings
  obtain ⟨base, hbase, rfl⟩ := exists_base_of_settingsPath? hsettings.path_eq
  obtain ⟨q, hleads, -⟩ := hsettings.leadsToFile
  obtain ⟨d, -, hdirectory⟩ :=
    exists_of_leadsTo_join (by decide) (by decide) (programDirectory_text_ne _) hleads
  rw [settingsTree_eq, hbase] at hdirectory
  unfold Config.locate at h
  rw [hbase] at h
  simp only [placeFile, withProgramDirectory] at h hdirectory
  cases hall : (i.opened t).createAll (programDirectory base) with
  | mk made result =>
    rw [hall] at h hdirectory
    cases result with
    | ok _ => cases h
    | error cause =>
      -- the directory that could not be made is not there
      rw [(createAll_of_error hall).2.1] at hdirectory
      cases hdirectory

/-- Either the settings are looked up at their path, or the defaults hold because that cannot be
placed. -/
theorem loadOrDefault_cases (i : Invocation texts) (t : Tree) :
    (∃ path, i.env.settingsPath? = some path ∧
      Config.loadOrDefault (i.opened t) i.env = Config.loadOrDefaultAt (i.settingsTree t) path) ∨
    ∃ cause, (Config.locate (i.opened t) i.env).2 = .error cause ∧
      Config.loadOrDefault (i.opened t) i.env
        = ⟨.ok .default, i.settingsTree t, [.configUnavailable cause]⟩ := by
  unfold settingsTree Config.loadOrDefault
  cases hlocate : Config.locate (i.opened t) i.env with
  | mk made result =>
    cases result with
    | error cause => exact .inr ⟨cause, rfl, rfl⟩
    | ok path =>
      unfold Config.locate at hlocate
      cases hplace : placeFile (i.opened t) i.env.configBase? Config.fileName with
      | mk made' placed =>
        rw [hplace] at hlocate
        cases placed with
        | error cause => cases hlocate
        | ok path' =>
          cases hlocate
          obtain ⟨base, hbase, rfl, -⟩ := exists_base_of_placeFile hplace
          refine .inl ⟨_, ?_, rfl⟩
          rw [Environment.settingsPath?, hbase]
          rfl

/-- A file that is found is loaded, and nothing is told of it. -/
theorem loadOrDefault_of_hasSettings (h : i.HasSettings t path content) :
    Config.loadOrDefault (i.opened t) i.env
      = ⟨Config.loadFrom (i.settingsTree t) path, i.settingsTree t, []⟩ := by
  have hfile := isFile_iff_leadsToFile.mpr ⟨content, h.leadsToFile⟩
  rcases loadOrDefault_cases i t with ⟨path', hpath, hload⟩ | ⟨cause, hunplaced, -⟩
  · rw [h.path_eq] at hpath
    cases hpath
    rw [hload, Config.loadOrDefaultAt_of_isFile hfile]
  · exact absurd h (not_hasSettings_of_unplaced hunplaced)

/-- If it is bad, that is the result, and nothing else happens. -/
theorem loadOrDefault_of_bad (h : i.HasSettings t path content)
    (hbad : Config.Bad path content reason) :
    Config.loadOrDefault (i.opened t) i.env = ⟨.error reason, i.settingsTree t, []⟩ := by
  rw [loadOrDefault_of_hasSettings h, (Config.loadFrom_eq_error_iff h.leadsToFile).mpr hbad]

/-- If it is good, its settings are the result. -/
theorem loadOrDefault_of_good (h : i.HasSettings t path content)
    (hgood : Config.Good content config) :
    Config.loadOrDefault (i.opened t) i.env = ⟨.ok config, i.settingsTree t, []⟩ := by
  rw [loadOrDefault_of_hasSettings h, (Config.loadFrom_eq_ok_iff h.leadsToFile).mpr hgood]

/-- If none is found the defaults are the result, and one event tells why. -/
theorem loadOrDefault_of_no_settings (h : ¬ ∃ path content, i.HasSettings t path content) :
    ∃ made event, Config.loadOrDefault (i.opened t) i.env = ⟨.ok .default, made, [event]⟩ := by
  rcases loadOrDefault_cases i t with ⟨path, hpath, hload⟩ | ⟨cause, -, hload⟩
  · have hloads := Config.loadsTogether (i.settingsTree t) path
    have hnone : ¬ ∃ content, (i.settingsTree t).LeadsToFile path content :=
      fun ⟨content, hfile⟩ => h ⟨path, content, hpath, hfile⟩
    rcases hloads.of_no_file hnone with ⟨made, hmade, -⟩ | ⟨cause, made, hmade, -⟩
    · exact ⟨made, _, hload.trans hmade⟩
    · exact ⟨made, _, hload.trans hmade⟩
  · exact ⟨_, _, hload⟩

/-- Something is told of the settings unless there is a file. -/
theorem events_loadOrDefault_eq_nil_iff :
    (Config.loadOrDefault (i.opened t) i.env).events = [] ↔
      ∃ path content, i.HasSettings t path content := by
  constructor
  · intro hevents
    by_contra hnone
    obtain ⟨made, event, hload⟩ := loadOrDefault_of_no_settings hnone
    rw [hload] at hevents
    cases hevents
  · rintro ⟨path, content, h⟩
    rw [loadOrDefault_of_hasSettings h]

end Invocation

open Invocation

/-! ## A run with a bad settings file -/

/-- What a run does that finds its settings file bad. The words of the error are the program's own
but for what the TOML reader says of a text. -/
structure StopsAtSettings (i : Invocation texts) (t : Tree) (path : Path) (content : Bytes)
    (reason : Config.Unusable) : Prop where
  exitCode : (i.report t).exitCode = 1
  output : (i.report t).output = ""
  error : ∃ events, (i.report t).errors = Log.linesOf events
    ++ errorLine (reason.message (texts.settingsReport ((Text.ofBytes? content).getD "")))
  /-- There is no event but that of opening the log. -/
  events : ∀ e ∈ i.events t, ∃ log ∈ i.env.logPath?, e = .opened log
  /-- No file is new but the log. -/
  grows : Grows i.env.logPath?.toList [] t (i.treeAfter t)
  /-- The settings file is as it was. -/
  keeps : (i.treeAfter t).LeadsToFile path content

/-- All that is told before the request is that the log was opened. -/
theorem eq_of_mem_opening (i : Invocation texts) (t : Tree) :
    ∀ e ∈ i.opening t, ∃ log ∈ i.env.logPath?, e = .opened log := by
  intro e he
  obtain ⟨file, hfile, rfl⟩ := Option.map_eq_some_iff.mp (Option.mem_toList.mp he)
  exact ⟨file.path, ((grows_openFile [] t i.env (List.Subset.refl _)).2 file hfile).1, rfl⟩

/-- Writing the log leaves the settings as the request left them. -/
theorem leadsToFile_treeAfter (h : (i.outcome t).tree.LeadsToFile (settingsPath base) content) :
    (i.treeAfter t).LeadsToFile (settingsPath base) content := by
  obtain ⟨q, hleads, hfile⟩ := h
  by_cases hopens : ∃ base d old, LogOpens t i.env base d old
  · obtain ⟨_, d, old, hopens⟩ := hopens
    have hwrites := writes_treeAfter hopens
    refine ⟨q, hwrites.extends.leadsTo hleads, ?_⟩
    rw [hwrites.entryAt?_eq, if_neg (ne_log_of_leadsTo hleads d), hfile]
  · rw [treeAfter_eq, openFile_of_not_opens hopens]
    exact ⟨q, hleads, hfile⟩

/-- The text from which the TOML reader tells what is wrong is that of the file. -/
theorem textAt_of_leadsToFile (h : t.LeadsToFile path content) :
    Config.textAt t path = (Text.ofBytes? content).getD "" := by
  rw [Config.textAt, read_eq_ok_iff.mpr h]
  rfl

theorem message_settings (reason : Config.Unusable) (text : String) :
    (Failure.settings reason text).message texts = reason.message (texts.settingsReport text) := rfl

/-- A run that is to sanitize ends at a bad settings file. -/
theorem stopsAtSettings (hasks : i.Asks (.sanitize urls format)) (h : i.HasSettings t path content)
    (hbad : Config.Bad path content reason) : StopsAtSettings i t path content reason := by
  have hload := loadOrDefault_of_bad h hbad
  have heffect : i.effect t (.sanitize urls format) = ⟨"", [],
      some (.settings reason ((Text.ofBytes? content).getD "")), i.settingsTree t⟩ := by
    have hresult : (Config.loadOrDefault (i.opened t) i.env).result = .error reason := by rw [hload]
    rw [effect, execute, sanitize_of_result_eq_error hresult, hload, hbad.path_eq,
      textAt_of_leadsToFile h.leadsToFile]
  have htree : (i.outcome t).tree = i.settingsTree t := by rw [outcome_of_asks hasks, heffect]
  refine ⟨?_, ?_, ?_, ?_, ?_, ?_⟩
  · rw [exitCode_of_asks hasks, heffect]
    rfl
  · rw [output_of_asks hasks, heffect]
  · have hfailure : (i.effect t (.sanitize urls format)).failure
        = some (.settings reason ((Text.ofBytes? content).getD "")) := by
      rw [heffect]
    rw [← message_settings]
    exact errors_of_asks hasks hfailure
  · rw [events_of_asks hasks, heffect, List.append_nil]
    exact eq_of_mem_opening i t
  · apply grows_treeAfter_of_outcome (List.Subset.refl _)
    rw [htree]
    obtain ⟨p, hadds⟩ := addsDirectories_settingsTree i t
    exact grows_of_addsDirectories hadds
  · obtain ⟨base, -, rfl⟩ := exists_base_of_settingsPath? h.path_eq
    apply leadsToFile_treeAfter
    rw [htree]
    exact h.leadsToFile

/-! ## Runs that do not look for settings -/

/-- Arguments that ask to sanitize name URLs and maybe a format. -/
theorem exists_asks_of_isSanitize (h : i.isSanitize = true) :
    ∃ urls format, i.Asks (.sanitize urls format) := by
  unfold Invocation.isSanitize at h
  cases hparse : parse i.arguments with
  | error e =>
    rw [hparse] at h
    cases h
  | ok request =>
    rw [hparse] at h
    cases request with
    | sanitize urls format => exact ⟨urls, format, hparse⟩
    | check | href | completions | man | help => cases h

/-- Only a request to sanitize looks at anything but itself. -/
theorem execute_congr {request : Request} (h : request.isSanitize = false) (texts : Texts)
    (t t' : Tree) (env env' : Environment) (stream stream' : List UInt8) :
    (execute texts t env stream request).output
        = (execute texts t' env' stream' request).output ∧
      (execute texts t env stream request).failure
        = (execute texts t' env' stream' request).failure := by
  cases request with
  | sanitize urls format => cases h
  | check url strict =>
    simp only [execute, check]
    split <;> exact ⟨rfl, rfl⟩
  | href url => exact ⟨rfl, rfl⟩
  | completions shell => exact ⟨rfl, rfl⟩
  | man => exact ⟨rfl, rfl⟩
  | help verb => exact ⟨rfl, rfl⟩

/-- So runs with such a request show the same in any two trees. -/
theorem outcome_congr_of_not_sanitize (h : i.isSanitize = false)
    (harguments : i'.arguments = i.arguments) (t t' : Tree) :
    (i'.outcome t').exitCode = (i.outcome t).exitCode ∧
      (i'.outcome t').output = (i.outcome t).output := by
  unfold Invocation.isSanitize at h
  unfold Invocation.outcome perform
  rw [harguments]
  cases hparse : parse i.arguments with
  | error e => exact ⟨rfl, rfl⟩
  | ok request =>
    rw [hparse] at h
    obtain ⟨houtput, hfailure⟩ := execute_congr h texts (i'.opened t') (i.opened t) i'.env
      i.env i'.stream i.stream
    simp only [houtput, hfailure]
    cases (execute texts (i.opened t) i.env i.stream request).failure <;> exact ⟨rfl, rfl⟩

/-! ## All runs -/

/-- The settings with which the batch of a run is done: those of its file or, if it finds none, the
defaults. -/
def Invocation.Uses (i : Invocation texts) (t : Tree) (config : Config) : Prop :=
  (∃ path content, i.HasSettings t path content ∧ Config.Good content config) ∨
    (¬ ∃ path content, i.HasSettings t path content) ∧ config = .default

/-- The settings that hold are what loading gives. -/
theorem result_of_uses (h : i.Uses t config) :
    (Config.loadOrDefault (i.opened t) i.env).result = .ok config := by
  rcases h with ⟨path, content, hfile, hgood⟩ | ⟨hnone, rfl⟩
  · rw [loadOrDefault_of_good hfile hgood]
  · obtain ⟨made, event, hload⟩ := loadOrDefault_of_no_settings hnone
    rw [hload]

/-- Unless the file is bad there are settings that hold. -/
theorem exists_uses (h : ¬ ∃ path content reason, i.HasSettings t path content ∧
      Config.Bad path content reason) : ∃ config, i.Uses t config := by
  by_cases hfile : ∃ path content, i.HasSettings t path content
  · obtain ⟨path, content, hfile⟩ := hfile
    rcases Config.loadFrom_of_leadsToFile hfile.leadsToFile with
      ⟨config, -, hgood⟩ | ⟨reason, -, hbad⟩
    · exact ⟨config, .inl ⟨path, content, hfile, hgood⟩⟩
    · exact absurd ⟨path, content, reason, hfile, hbad⟩ h
  · exact ⟨.default, .inr ⟨hfile, rfl⟩⟩

/-- The batch is done with them, and with the format of the command line if it has one. -/
theorem sanitizes_of_uses (hasks : i.Asks (.sanitize urls format)) (h : i.Uses t config) :
    i.Sanitizes t urls (batchOptions config format) :=
  ⟨format, config, hasks, result_of_uses h, rfl⟩

/-- The same of what these runs report. -/
theorem report_congr_of_not_sanitize (h : i.isSanitize = false)
    (harguments : i'.arguments = i.arguments) (t t' : Tree) :
    (i'.report t').exitCode = (i.report t).exitCode ∧
      (i'.report t').output = (i.report t).output := by
  rw [exitCode_report, exitCode_report, output_report, output_report]
  exact outcome_congr_of_not_sanitize h harguments t t'

/-- With the same settings it does not matter where they come from. -/
theorem report_congr_of_uses (harguments : i'.arguments = i.arguments)
    (hstream : i'.stream = i.stream) (h : i.Uses t config) (h' : i'.Uses t' config) :
    (i'.report t').exitCode = (i.report t).exitCode ∧
      (i'.report t').output = (i.report t).output := by
  cases hsanitize : i.isSanitize with
  | false => exact report_congr_of_not_sanitize hsanitize harguments t t'
  | true =>
    obtain ⟨urls, format, hasks⟩ := exists_asks_of_isSanitize hsanitize
    have hasks' : i'.Asks (.sanitize urls format) := by rwa [Asks, harguments]
    have hsanitizes := sanitizes_of_uses hasks h
    have hsanitizes' := sanitizes_of_uses hasks' h'
    rw [exitCode_of_sanitizes hsanitizes, exitCode_of_sanitizes hsanitizes',
      output_of_sanitizes hsanitizes, output_of_sanitizes hsanitizes', hstream]
    exact ⟨rfl, rfl⟩

/-! ## Runs without a home directory -/

/-- Without a home directory loading makes nothing and warns. -/
theorem loadOrDefault_of_no_home {env : Environment} (h : env.home = none) (t : Tree) :
    Config.loadOrDefault t env = ⟨.ok .default, t, [.configUnavailable (.place .noHome)]⟩ := by
  have hbase : env.configBase? = none := by rw [Environment.configBase?, Environment.base?, h]; rfl
  unfold Config.loadOrDefault Config.locate
  rw [hbase]
  rfl

/-- A user without a home directory has neither a log nor settings, whatever the other variables
say. A run leaves the tree as it was, and if it sanitizes the defaults hold. -/
theorem treeAfter_of_no_home (h : i.env.home = none) (t : Tree) :
    i.treeAfter t = t ∧ i.Uses t .default := by
  have hbase : i.env.stateBase? = none := by rw [Environment.stateBase?, Environment.base?, h]; rfl
  have hopen : Log.openFile t i.env = (t, none) := openFile_of_no_base t hbase
  have hrequest (request : Request) : (execute texts t i.env i.stream request).tree = t := by
    cases request with
    | sanitize urls format => rw [execute, tree_sanitize, loadOrDefault_of_no_home h]
    | check url strict =>
      rw [execute, check]
      split <;> rfl
    | href | completions | man | help => rfl
  refine ⟨?_, .inr ⟨?_, rfl⟩⟩
  · rw [treeAfter_eq, hopen]
    show (i.outcome t).tree = t
    unfold outcome opened perform
    rw [hopen]
    cases parse i.arguments with
    | error e => rfl
    | ok request =>
      simp only
      split <;> exact hrequest request
  · rintro ⟨path, content, hpath, -⟩
    obtain ⟨base, hconfig, -⟩ := exists_base_of_settingsPath? hpath
    rw [Environment.configBase?, Environment.base?, h] at hconfig
    cases hconfig

/-- The reason is told on the standard error. -/
example : ((⟨⟨none, some "/etc", none, some "warn"⟩, ["sanitize", "/a"], []⟩ :
      Invocation .standIn).report .empty)
    = ⟨0, "/a\n", "WARN safeurl_core::config: config unavailable, using defaults: " ++
        "resolve XDG base directories for safeurl: $HOME must be set\n"⟩ := by decide +kernel

/-! ## The settings and the run -/

/-- What the settings decide in a run. -/
structure SettingsDecide (i : Invocation texts) (t : Tree) : Prop where
  /-- A settings file that is there before the run is found. -/
  found : ∀ path content, i.env.settingsPath? = some path → t.LeadsToFile path content →
    i.HasSettings t path content
  /-- No other is, if every `..` on the way to it is taken from a directory that exists. -/
  found_only : ∀ path content, t.ReachesUps path → i.HasSettings t path content →
    t.LeadsToFile path content
  /-- A bad file stops the run, whatever the command line says. -/
  stops : ∀ urls format path content reason, i.Asks (.sanitize urls format) →
    i.HasSettings t path content → Config.Bad path content reason →
      StopsAtSettings i t path content reason
  /-- Otherwise the format is that of the command line, or else that of the settings. -/
  output : ∀ urls format, i.Asks (.sanitize urls format) →
    (¬ ∃ path content reason, i.HasSettings t path content ∧
      Config.Bad path content reason) →
    ∃ config, i.Uses t config ∧ (i.report t).output = (Batch.run
      ⟨format.getD config.output, config.logRejections, config.skipBlankLines⟩ urls
        i.stream).output
  /-- There is no file if there is no home directory or the program's own cannot be made, … -/
  unplaced : ∀ cause, (Config.locate (i.opened t) i.env).2 = .error cause →
    ¬ ∃ path content, i.HasSettings t path content
  /-- … or if the file is created, or cannot be. Each of these makes an event. -/
  told_iff : (Config.loadOrDefault (i.opened t) i.env).events = [] ↔
    ∃ path content, i.HasSettings t path content
  /-- Runs with the same settings show the same. So do those that find no file, for whatever
  reason. -/
  same : ∀ (i' : Invocation texts) (t' : Tree) (config : Config), i'.arguments = i.arguments →
    i'.stream = i.stream → i.Uses t config → i'.Uses t' config →
      (i'.report t').exitCode = (i.report t).exitCode ∧
        (i'.report t').output = (i.report t).output
  /-- Requests other than to sanitize show the same, whatever there is to be found or read. -/
  others : i.isSanitize = false → ∀ (i' : Invocation texts) (t' : Tree),
    i'.arguments = i.arguments →
      (i'.report t').exitCode = (i.report t).exitCode ∧
        (i'.report t').output = (i.report t).output

/-- **The settings come before the batch.** A run that is to sanitize and finds its settings file
bad ends with code 1, and nothing is written, logged of a URL, or created. Otherwise it writes the
batch in the format of the command line, or else of the settings, which are those of the file or, if
there is none, the defaults. No other request depends on the settings or on the input. -/
theorem settingsDecide (i : Invocation texts) (t : Tree) : SettingsDecide i t where
  found _ _ := hasSettings_of_leadsToFile
  found_only _ _ := leadsToFile_of_hasSettings
  stops _ _ _ _ _ := stopsAtSettings
  output urls format hasks hnot := by
    obtain ⟨config, huses⟩ := exists_uses hnot
    exact ⟨config, huses, output_of_sanitizes (sanitizes_of_uses hasks huses)⟩
  unplaced cause h := by
    rintro ⟨path, content, hfile⟩
    exact not_hasSettings_of_unplaced h hfile
  told_iff := events_loadOrDefault_eq_nil_iff
  same _ _ _ := report_congr_of_uses
  others h _ t' harguments := report_congr_of_not_sanitize h harguments t t'

/-- A known key with a bad value, and a format and a URL on the command line. -/
example :
    let text := "skip_blank_lines = 1\n"
    let t : Tree := ⟨[("home", .directory [(".config", .directory [("safeurl", .directory
      [("config.toml", .file (Text.toBytes text))])])])]⟩
    (Invocation.ofArguments ["sanitize", "--format=json", "/a"]).report t
      = ⟨1, "", errorLine ("parse /home/.config/safeurl/config.toml: "
          ++ Texts.standIn.settingsReport text)⟩ := by
  decide +kernel

end LinkGate.Command
