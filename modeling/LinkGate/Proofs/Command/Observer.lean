import LinkGate.Proofs.Command.Sink
import LinkGate.Proofs.Log.Rules

/-!
# The log filter only observes

The setting of the log filter is read once, when the events of a run are turned into lines. Nothing
before that depends on it: not whether the log can be opened (`logOpens_showing_iff`), and not what
the request does or which events it has. So two runs under two settings differ in their log lines
only, and the lines of each are what its filter shows of the same events (`observed_of_opens`,
`observed_of_not_opens`).

Which events a filter shows is the subject of `LinkGate.Proofs.Log.Rules`. The headline
`filter_only_observes` has both.
-/

namespace LinkGate.Command

open Files Files.Tree

variable {texts : Texts} {t : Tree} {i : Invocation texts} {setting : Option String} {base : Path}
  {d : Place} {old : Bytes}

/-! ## Runs under two settings -/

/-- Whether the log opens does not depend on the setting of the filter. -/
theorem logOpens_showing_iff (setting : Option String) :
    LogOpens t (i.showing setting).env base d old ↔ LogOpens t i.env base d old :=
  ⟨fun h => ⟨h.below, h.placed, h.named, h.content⟩,
    fun h => ⟨h.below, h.placed, h.named, h.content⟩⟩

/-- Under another setting other lines are shown of the same events. -/
theorem log_showing (i : Invocation texts) (t : Tree) (setting : Option String) :
    (i.showing setting).log t
      = Log.linesOf ((i.events t).filter (Log.Filter.ofSetting setting).admits) := by
  have hevents : (i.showing setting).events t = i.events t := by
    rw [Invocation.events, outcome_showing]
    rfl
  rw [Invocation.log_eq, hevents]
  rfl

/-- Under every setting a run writes what is shown of the same events to the same place: behind what
the log had if that is the file at `sink`, and else in front of the same error text. -/
structure Observed (i : Invocation texts) (t : Tree) (events : List Log.Event) (error : String)
    (sink : Option Place) : Prop where
  errors : ∀ setting, ((i.showing setting).report t).errors
    = (if sink.isSome then ""
        else Log.linesOf (events.filter (Log.Filter.ofSetting setting).admits)) ++ error
  log : ∀ q, sink = some q → ∃ old, ∀ setting,
    (∃ path, i.env.logPath? = some path ∧ ((i.showing setting).treeAfter t).LeadsTo path q) ∧
    ((i.showing setting).treeAfter t).entryAt? q = some (.file (old ++
      Text.toBytes (Log.linesOf (events.filter (Log.Filter.ofSetting setting).admits))))
  entries : ∀ setting setting' q, sink ≠ some q →
    ((i.showing setting).treeAfter t).entryAt? q = ((i.showing setting').treeAfter t).entryAt? q

/-- A log that opens is the sink under every setting. -/
theorem observed_of_opens (h : LogOpens t i.env base d old) :
    Observed i t (i.events t) (i.outcome t).error (some (d ++ [Log.fileName])) := by
  have hopens : ∀ setting, LogOpens t (i.showing setting).env base d old :=
    fun setting => (logOpens_showing_iff setting).mpr h
  refine ⟨fun setting => ?_, fun q hq => ⟨old, fun setting => ?_⟩, fun setting setting' q hq => ?_⟩
  · rw [(loggedToFile_of_opens (hopens setting)).errors, outcome_showing]
    exact String.empty_append.symm
  · cases hq
    refine ⟨⟨_, h.logPath?_eq, (writes_treeAfter (hopens setting)).leadsTo⟩, ?_⟩
    rw [(writes_treeAfter (hopens setting)).entryAt?_eq, if_pos rfl, log_showing]
  · -- elsewhere both trees are what the request left
    have hne : q ≠ d ++ [Log.fileName] := fun heq => hq (congrArg some heq.symm)
    rw [(writes_treeAfter (hopens setting)).entryAt?_eq, if_neg hne, outcome_showing,
      (writes_treeAfter (hopens setting')).entryAt?_eq, if_neg hne, outcome_showing]

/-- A log that does not open is none under any setting, and the tree is the same under all. -/
theorem observed_of_not_opens (h : ¬ ∃ base d old, LogOpens t i.env base d old) :
    Observed i t (i.events t) (i.outcome t).error none := by
  have hopen : ∀ setting, Log.openFile t (i.showing setting).env
      = (withStateDirectory t i.env, none) := by
    intro setting
    apply openFile_of_not_opens
    rintro ⟨base, d, old, hopens⟩
    exact h ⟨base, d, old, (logOpens_showing_iff setting).mp hopens⟩
  -- nothing is written after the request
  have hafter : ∀ setting, (i.showing setting).treeAfter t = (i.outcome t).tree := by
    intro setting
    rw [Invocation.treeAfter_eq, hopen, outcome_showing]
    rfl
  refine ⟨fun setting => ?_, fun q hq => (by cases hq), fun setting setting' q _ => ?_⟩
  · rw [Invocation.errors_eq, hopen, log_showing, outcome_showing]
    rfl
  · rw [hafter, hafter]

/-- Each run has one sink, whatever its filter shows. -/
theorem exists_observed (i : Invocation texts) (t : Tree) :
    ∃ sink, Observed i t (i.events t) (i.outcome t).error sink := by
  by_cases h : ∃ base d old, LogOpens t i.env base d old
  · obtain ⟨base, d, old, hopens⟩ := h
    exact ⟨_, observed_of_opens hopens⟩
  · exact ⟨_, observed_of_not_opens h⟩

/-! ## The filter and the run -/

/-- What a setting of the log filter decides, and what it does not. -/
structure OnlyObserves (i : Invocation texts) (t : Tree) : Prop where
  exitCode : ∀ setting setting', ((i.showing setting).report t).exitCode
    = ((i.showing setting').report t).exitCode
  output : ∀ setting setting', ((i.showing setting).report t).output
    = ((i.showing setting').report t).output
  observed : ∃ sink, Observed i t (i.events t) (i.outcome t).error sink
  /-- Of rules for different targets the one with the longest target that begins the event's decides
  whether the event is shown. -/
  selects : ∀ text rules, Log.Filter.Lists text rules → (rules.map Log.Rule.target).Nodup →
    ∃ filter, Log.Filter.parse? text = some filter ∧ ∀ e, filter.admits e = true ↔
      ∃ rule most, Log.Rule.Decides rules e rule ∧ rule.limit = some most ∧
        e.level.rank ≤ most.rank
  /-- A setting that can be read is the filter, and all other settings are as the default one. -/
  reads : ∀ setting filter, Log.Filter.ofSetting setting = filter ↔
    (∃ text, setting = some text ∧ Log.Filter.parse? text = some filter) ∨
    ((∀ text, setting = some text → Log.Filter.parse? text = none) ∧
      Log.Filter.parse? "info,safeurl=debug" = some filter)

/-- **The log filter is only an observer.** Two runs that differ in the setting of the filter have
the same exit code, output, error text and tree, but for the lines of the log. Those are, in their
order, the events that the filter admits of one list of events for both runs. -/
theorem filter_only_observes (i : Invocation texts) (t : Tree) : OnlyObserves i t where
  exitCode setting setting' := by
    rw [Invocation.exitCode_report, Invocation.exitCode_report, outcome_showing, outcome_showing]
  output setting setting' := by
    rw [Invocation.output_report, Invocation.output_report, outcome_showing, outcome_showing]
  observed := exists_observed i t
  selects text rules hlists hdistinct :=
    ⟨rules.map Log.Rule.directive, Log.Filter.parse?_of_lists hlists,
      fun _ => Log.Filter.admits_directives_iff hdistinct⟩
  reads _ _ := Log.Filter.ofSetting_eq_iff

end LinkGate.Command
