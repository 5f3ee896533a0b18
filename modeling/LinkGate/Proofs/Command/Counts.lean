import LinkGate.Proofs.Command.Input
import LinkGate.Proofs.Command.Records
import LinkGate.Proofs.Config.Shape
import LinkGate.Proofs.Url.Verdict

/-!
# Counts that agree

How many URLs of a batch were refused is told in several ways: by the placeholders in the output, by
the records with a bad verdict, by the events of the replacements, and by the last event. All of
them are the count of the URLs that are refused (`counts_agree`), because a safe URL is never the
placeholder and each URL has one event if it is refused and none if it is safe.

A blank line has no delimiter, so it is safe (`isSafe_of_isBlankLine`). Whether blank lines are
passed over therefore changes nothing that is told of refused URLs; it changes the output only, by
the blank lines themselves.
-/

namespace LinkGate.Url

/-- No blank character ends a scheme. -/
theorem isDelimiter_of_isBlank {c : Char} (h : Text.isBlank c = true) : isDelimiter c = false := by
  cases hdelimiter : isDelimiter c with
  | false => rfl
  | true =>
    obtain rfl | rfl | rfl | rfl := isDelimiter_iff.mp hdelimiter <;> cases h

/-- A blank line has no scheme. -/
theorem isSafe_of_isBlankLine {url : String} (h : Text.isBlankLine url.toList = true) :
    isSafe url = true := by
  have hscheme : scheme? url.toList = none :=
    scheme?_eq_none_of_forall fun c hc => isDelimiter_of_isBlank (List.all_eq_true.mp h c hc)
  refine isSafe_iff.mpr (judge_of_scheme?_eq_none ?_)
  rw [scheme?_lower, hscheme]
  rfl

end LinkGate.Url

namespace LinkGate.Command

open Files Files.Tree Text

variable {texts : Texts} {options : BatchOptions} {urls lines : List String}
  {stream : List UInt8} {i i' : Invocation texts} {t t' : Tree} {format : Option OutputFormat}

/-! ## Placeholders and records -/

namespace Batch

/-- The placeholder stands for the refused URLs and for no others. -/
theorem count_placeholder (urls : List String) :
    (urls.map fun url => (Url.sanitize url).value).count Url.placeholder = countRefused urls := by
  rw [List.count, List.countP_map, countRefused]
  refine List.countP_congr fun url _ => ?_
  have hvalue : (Url.sanitize url).value = Url.placeholder ↔ ¬ Url.isSafe url = true :=
    Url.value_sanitize_eq_placeholder_iff_not_isSafe
  simpa using hvalue

/-- A record tells the verdict on its URL. -/
theorem countP_records (urls : List String) :
    (urls.map Record.ofUrl).countP (!·.safe) = countRefused urls :=
  List.countP_map

/-! ## Blank lines -/

/-- There is no event for a blank line. -/
theorem rejections_keptLines (options : BatchOptions) (lines : List String) :
    Log.rejections (keptLines options lines) = Log.rejections lines := by
  unfold keptLines
  split
  · rw [Log.rejections, List.filterMap_filter, Log.rejections]
    refine List.filterMap_congr fun line _ => ?_
    cases hblank : isBlankLine line.toList with
    | false => rfl
    -- a line that is left out would have had no event
    | true => exact (Log.rejection?_of_isSafe (Url.isSafe_of_isBlankLine hblank)).symm
  · rfl

/-- So the refused URLs of a run have the same events under all settings. -/
theorem rejections_inputs (options options' : BatchOptions) (urls : List String)
    (stream : List UInt8) :
    Log.rejections (inputs options urls stream) = Log.rejections (inputs options' urls stream) := by
  unfold inputs
  split
  · rw [rejections_keptLines, rejections_keptLines]
  · rfl

/-- There are as many of them too. -/
theorem countRefused_inputs (options options' : BatchOptions) (urls : List String)
    (stream : List UInt8) :
    countRefused (inputs options urls stream) = countRefused (inputs options' urls stream) := by
  rw [← length_rejections, ← length_rejections, rejections_inputs options options']

end Batch

/-! ## The events of a run that succeeds -/

namespace Invocation

/-- The events of a run that reads all its input: one for each refused URL, and the last one, come
after those that tell of the settings. -/
theorem events_of_exitCode (h : i.Sanitizes t urls options) (hexit : (i.report t).exitCode = 0) :
    ∃ config, i.events t = i.preamble t ++ .loadedConfig config ::
      (Log.rejections (Batch.inputs options urls i.stream) ++
        [Batch.lastEvent options (Batch.countRefused (Batch.inputs options urls i.stream))]) := by
  obtain ⟨config, -, hevents⟩ := events_of_sanitizes h
  -- a line that could not be read would have been a failure
  have hread : (Batch.run options urls i.stream).unreadLine = none := by
    rw [exitCode_of_sanitizes h] at hexit
    cases hunread : (Batch.run options urls i.stream).unreadLine with
    | none => rfl
    | some number => simp [hunread] at hexit
  refine ⟨config, ?_⟩
  rw [hevents, Batch.events_run, hread]
  rfl

/-- No event before those of the batch tells what is in a file. -/
theorem preamble_eq (h : SameShape t t') : i.preamble t = i.preamble t' := by
  have hopened := sameOutcome_openFile h i.env
  unfold preamble opening opened
  generalize Log.openFile t i.env = found, Log.openFile t' i.env = found' at hopened
  obtain ⟨hmade⟩ := hopened
  rw [Config.events_loadOrDefault_eq hmade]

end Invocation

/-- The last event tells the count, and whether it is reported. -/
theorem Batch.lastEvent_tells (options : BatchOptions) (n : Nat) :
    (lastEvent options n).values = [("rejected", toString n)] ∧
      (lastEvent options n).level
        = if options.logRejections = true ∧ 0 < n then .info else .debug := by
  unfold lastEvent
  by_cases hreported : options.logRejections = true ∧ 0 < n
  · rw [if_pos (by simpa using hreported), if_pos hreported]
    exact ⟨rfl, rfl⟩
  · rw [if_neg (by simpa using hreported), if_neg hreported]
    exact ⟨rfl, rfl⟩

/-! ## What agrees on the count -/

/-- All that a run tells of its refused URLs, of which there are `n`, agrees on that number. -/
structure CountsAgree (i : Invocation texts) (t : Tree) (options : BatchOptions)
    (inputs : List String) (n : Nat) : Prop where
  /-- So many URLs are refused. -/
  refused : inputs.countP (fun url => !(Url.classify url).isSafe) = n
  /-- So many URLs become the placeholder. -/
  placeholders : (inputs.map fun url => (Url.sanitize url).value).count Url.placeholder = n
  /-- In plain format these are the output, and its lines if no URL has a line feed. -/
  plain : options.format = .plain →
    (i.report t).output = ofLines (inputs.map fun url => (Url.sanitize url).value) ∧
      ((∀ url ∈ inputs, '\n' ∉ url.toList) →
        (linesOf (i.report t).output).count Url.placeholder = n)
  /-- So many records have the placeholder, and so many a bad verdict. -/
  records : options.format = .json → ∃ records, readRecords? (i.report t).output = some records ∧
    (records.map Record.output).count Url.placeholder = n ∧ records.countP (!·.safe) = n
  /-- There are so many events of a replacement. -/
  replacements : (i.events t).countP Log.Event.isReplacement = n
  /-- One event tells the number, and it is the last one. -/
  summary : ∃ before last, i.events t = before ++ [last] ∧
    (∀ e ∈ before, e.isSummary = false) ∧ last.isSummary = true ∧
      last.values = [("rejected", toString n)] ∧
        last.level = if options.logRejections = true ∧ 0 < n then .info else .debug

/-- The lines of plain output are the sanitized URLs, if no URL brings a line feed with it. -/
theorem linesOf_ofLines_values {inputs : List String} (h : ∀ url ∈ inputs, '\n' ∉ url.toList) :
    linesOf (ofLines (inputs.map fun url => (Url.sanitize url).value))
      = inputs.map fun url => (Url.sanitize url).value := by
  refine (hasLines_ofLines_iff.mpr ?_).linesOf_eq
  rw [List.forall_mem_map]
  exact fun url hurl => newline_not_mem_value_iff.mpr fun _ => h url hurl

/-- In a run that reads all its input everything that tells of refused URLs agrees on their number.
-/
theorem countsAgree_of_sanitizes (h : i.Sanitizes t urls options)
    (hexit : (i.report t).exitCode = 0) :
    CountsAgree i t options (Batch.inputs options urls i.stream)
      (Batch.countRefused (Batch.inputs options urls i.stream)) := by
  refine ⟨rfl, Batch.count_placeholder _, fun hplain => ?_, fun hjson => ?_, ?_, ?_⟩
  -- the output, as lines or as records, is that of the URLs one by one
  · have houtput := output_of_plain h hplain
    rw [Batch.outputForAll_plain] at houtput
    refine ⟨houtput, fun hlines => ?_⟩
    rw [houtput]
    exact (congrArg _ (linesOf_ofLines_values hlines)).trans (Batch.count_placeholder _)
  · have hrecords : readRecords? (i.report t).output
        = some ((Batch.inputs options urls i.stream).map Record.ofUrl) := by
      rw [output_of_json h hjson, readRecords?_outputForAll]
    refine ⟨_, hrecords, ?_, Batch.countP_records _⟩
    rw [List.map_map]
    exact Batch.count_placeholder _
  -- the events before the batch are neither replacements nor a summary
  · rw [List.countP_eq_length_filter, filter_isReplacement_events h, Batch.length_rejections]
  · obtain ⟨config, hevents⟩ := Invocation.events_of_exitCode h hexit
    obtain ⟨hvalues, hlevel⟩ := Batch.lastEvent_tells options
      (Batch.countRefused (Batch.inputs options urls i.stream))
    rw [← List.cons_append, ← List.append_assoc] at hevents
    refine ⟨_, _, hevents, ?_, (Batch.isSummary_lastEvent options _).2, hvalues, hlevel⟩
    rw [List.forall_mem_append, List.forall_mem_cons]
    exact ⟨fun e he => (events_preamble i t e he).2, rfl,
      fun e he => (Log.isReplacement_of_mem_rejections he).2⟩

/-! ## Blank lines in a run -/

/-- The runs have the same events but for the one that tells the settings. -/
def SameButSettings (events events' : List Log.Event) : Prop :=
  ∃ before after config config', events = before ++ .loadedConfig config :: after ∧
    events' = before ++ .loadedConfig config' :: after

/-- Whether blank lines are passed over changes nothing that is logged of a batch. -/
theorem events_skipBlankLines {skip : Bool} (h : i.Sanitizes t urls options)
    (h' : i.Sanitizes t' urls { options with skipBlankLines := skip }) (hshape : SameShape t t') :
    SameButSettings (i.events t) (i.events t') := by
  obtain ⟨config, -, hevents⟩ := Invocation.events_of_sanitizes h
  obtain ⟨config', -, hevents'⟩ := Invocation.events_of_sanitizes h'
  refine ⟨_, _, config, config', hevents, ?_⟩
  have hbatch : (Batch.run { options with skipBlankLines := skip } urls i.stream).events
      = (Batch.run options urls i.stream).events := by
    rw [Batch.events_run, Batch.events_run, Batch.unreadLine_run, Batch.unreadLine_run,
      Batch.rejections_inputs _ options, Batch.countRefused_inputs _ options]
    rfl
  rw [hevents', hbatch, Invocation.preamble_eq hshape]

/-- Passing over blank lines is the same as leaving them out of the input. -/
theorem output_withoutBlankLines (h : i.Sanitizes t [] options)
    (hskip : options.skipBlankLines = true)
    (h' : i'.Sanitizes t' [] { options with skipBlankLines := false })
    (hstream : i'.stream = withoutBlankLines i.stream) :
    (i.report t).output = (i'.report t').output := by
  have hinputs : Batch.inputs options [] i.stream
      = Batch.inputs { options with skipBlankLines := false } [] i'.stream := by
    rw [Batch.inputs_nil, Batch.inputs_nil, hstream, Batch.keptLines, Batch.keptLines, if_pos hskip,
      texts_read_withoutBlankLines]
    rfl
  rw [Invocation.output_of_sanitizes h, Invocation.output_of_sanitizes h', Batch.output_run,
    Batch.output_run, hinputs]

/-- **Counts agree everywhere.** In a run that succeeds the placeholders in the output, the records
with a bad verdict, the events of replacements and the number in the one last event are as many as
the URLs that are refused. That number and these events are the same whether or not blank lines are
passed over; so is the whole log but for the settings in it, if only contents of files differ. What
is written when blank lines of the input are passed over is what is written when they are not and
are left out of the input. -/
theorem counts_agree (hasks : i.Asks (.sanitize urls format)) (hexit : (i.report t).exitCode = 0) :
    ∃ options, i.Sanitizes t urls options ∧
      CountsAgree i t options (Batch.inputs options urls i.stream)
        (Batch.countRefused (Batch.inputs options urls i.stream)) ∧
      (∀ {t' : Tree} {skip : Bool}, i.Sanitizes t' urls { options with skipBlankLines := skip } →
        (i.report t').exitCode = 0 ∧
        CountsAgree i t' { options with skipBlankLines := skip }
          (Batch.inputs { options with skipBlankLines := skip } urls i.stream)
          (Batch.countRefused (Batch.inputs options urls i.stream)) ∧
        (i.events t').filter Log.Event.isReplacement
          = (i.events t).filter Log.Event.isReplacement ∧
        (SameShape t t' → SameButSettings (i.events t) (i.events t'))) ∧
      (urls = [] → options.skipBlankLines = true → ∀ {i' : Invocation texts} {t' : Tree},
        i'.Sanitizes t' [] { options with skipBlankLines := false } →
          i'.stream = withoutBlankLines i.stream →
            (i.report t).output = (i'.report t').output) := by
  obtain ⟨config, h⟩ := Invocation.sanitizes_of_exitCode hasks hexit
  refine ⟨_, h, countsAgree_of_sanitizes h hexit, ?_, ?_⟩
  · intro t' skip h'
    -- whether a line can be read does not depend on the settings
    have hexit' : (i.report t').exitCode = 0 := by
      rw [Invocation.exitCode_of_sanitizes h, Batch.unreadLine_run] at hexit
      rw [Invocation.exitCode_of_sanitizes h', Batch.unreadLine_run, hexit]
    refine ⟨hexit', ?_, ?_, events_skipBlankLines h h'⟩
    · rw [Batch.countRefused_inputs _ { batchOptions config format with skipBlankLines := skip }]
      exact countsAgree_of_sanitizes h' hexit'
    · rw [filter_isReplacement_events h', filter_isReplacement_events h]
      exact Batch.rejections_inputs _ _ _ _
  · rintro rfl hskip i' t' h' hstream
    exact output_withoutBlankLines h hskip h' hstream

/-- A blank line is passed over, and after a change of the settings it is not. -/
theorem counts_agree_settings_changed :
    let settings := ["home", ".config", "safeurl"]
    let t : Tree := ⟨[("home", .directory [(".config", .directory [("safeurl", .directory
      [("config.toml", .file (toBytes "skip_blank_lines = true\n"))])])])]⟩
    let t' := t.put settings "config.toml" (.file (toBytes "skip_blank_lines = false\n"))
    let i : Invocation .standIn :=
      { Invocation.ofArguments ["sanitize"] with stream := toBytes "javascript:x\n \n/a\n" }
    let i' : Invocation .standIn := { i with stream := withoutBlankLines i.stream }
    CountsAgree i t ⟨.plain, true, true⟩ ["javascript:x", "/a"] 1 ∧
      CountsAgree i t' ⟨.plain, true, false⟩ ["javascript:x", " ", "/a"] 1 ∧
        SameButSettings (i.events t) (i.events t') ∧
          (i.report t).output = (i'.report t').output := by
  intro settings t t' i i'
  have hasks : i.Asks (.sanitize [] none) := eq_ok_of_toOption (by decide +kernel)
  have hexit : (i.report t).exitCode = 0 := by decide +kernel
  have hconfig : (Config.loadOrDefault (i.opened t) i.env).result = .ok ⟨.plain, true, true⟩ :=
    eq_ok_of_toOption (by decide +kernel)
  have hconfig' : (Config.loadOrDefault (i.opened t') i.env).result = .ok ⟨.plain, true, false⟩ :=
    eq_ok_of_toOption (by decide +kernel)
  have hchanged : i.Sanitizes t' [] ⟨.plain, true, false⟩ := ⟨none, _, hasks, hconfig', rfl⟩
  have hshape : SameShape t t' :=
    .of_put_file (show t.entryAt? (settings ++ ["config.toml"])
      = some (.file (toBytes "skip_blank_lines = true\n")) by decide +kernel) _
  obtain ⟨options, hsanitizes, hcounts, hother, houtput⟩ := counts_agree hasks hexit
  have hoptions := hsanitizes.unique ⟨none, _, hasks, hconfig, rfl⟩
  subst hoptions
  obtain ⟨-, hcounts', -, hevents⟩ := hother hchanged
  exact ⟨hcounts, hcounts', hevents hshape, houtput rfl rfl hchanged rfl⟩

end LinkGate.Command
