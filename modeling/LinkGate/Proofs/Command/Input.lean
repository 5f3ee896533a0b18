import LinkGate.Proofs.Command.Events
import LinkGate.Proofs.Text.Stream

/-!
# URLs from the input

URLs that are given as arguments and the same URLs written into the input are one batch: the lines
of the stream are the URLs again (`WrittenLines.read_eq`), and all of them are kept if none is blank
or blank lines are. What is done before the batch does not look at either, so nothing can tell the
two runs apart (`sameRun_of_writtenLines`). If URLs are given, the input does not matter.
-/

namespace LinkGate.Command

open Text

variable {texts : Texts} {options : BatchOptions} {urls lines : List String}
  {stream stream' : List UInt8} {i i' : Invocation texts} {t : Files.Tree}
  {format : Option OutputFormat}

namespace Batch

/-- No line is passed over if none is blank, or if blank lines are kept. -/
theorem keptLines_eq_self
    (h : options.skipBlankLines = true → ∀ line ∈ lines, isBlankLine line.toList = false) :
    keptLines options lines = lines := by
  unfold keptLines
  split
  · next hskip =>
    refine List.filter_eq_self.mpr fun line hmem => ?_
    rw [h hskip line hmem]
    rfl
  · rfl

/-- The input is the batch of the texts that were written into it. -/
theorem run_of_writtenLines (h : WrittenLines urls stream) (hlines : ∀ url ∈ urls, IsLineText url)
    (hkept : options.skipBlankLines = true → ∀ url ∈ urls, isBlankLine url.toList = false) :
    inputs options [] stream = urls ∧ run options [] stream = ofUrls options urls := by
  have hread := h.read_eq hlines
  refine ⟨?_, ?_⟩
  · rw [inputs_nil, hread, keptLines_eq_self hkept]
  · have hstream : run options [] stream = ofStream options stream := rfl
    rw [hstream, ofStream, hread]
    simp only [keptLines_eq_self hkept]

end Batch

/-- Two runs that begin in one tree show the same, have the same events and leave the same tree. -/
structure SameRun (t : Files.Tree) (i i' : Invocation texts) : Prop where
  report : i.report t = i'.report t
  events : i.events t = i'.events t
  treeAfter : i.treeAfter t = i'.treeAfter t

/-- Runs that sanitize in the same environment are the same if their batches are. -/
theorem sameRun_of_run_eq {urls' : List String} (henv : i.env = i'.env)
    (hasks : i.Asks (.sanitize urls format)) (hasks' : i'.Asks (.sanitize urls' format))
    (hrun : ∀ options, i.Sanitizes t urls options →
      Batch.run options urls i.stream = Batch.run options urls' i'.stream) : SameRun t i i' := by
  -- what comes before the batch is the environment's alone
  have hopened : i.opened t = i'.opened t := by rw [Invocation.opened, Invocation.opened, henv]
  have heffect : i.effect t (.sanitize urls format) = i'.effect t (.sanitize urls' format) := by
    rw [Invocation.effect, Invocation.effect, ← hopened, ← henv]
    exact sanitize_congr fun config hconfig => hrun _ ⟨format, config, hasks, hconfig, rfl⟩
  obtain ⟨hreport, htree, hevents⟩ :=
    Invocation.run_congr henv (Invocation.outcome_congr hasks hasks' heffect)
  exact ⟨hreport, hevents, htree⟩

/-- **Arguments and input are the same batch.** URLs that are told from their lines may be given as
arguments or be written into the input, with either ending on each line: the output, the exit code,
the events, the count of refused URLs and the tree are the same. And if there are arguments, none of
this depends on the input, whatever bytes are in it. -/
theorem sameRun_of_writtenLines (hasks : i.Asks (.sanitize urls format)) (hne : urls ≠ []) :
    (∀ i' : Invocation texts, i.env = i'.env → i'.Asks (.sanitize [] format) →
      WrittenLines urls i'.stream → (∀ url ∈ urls, IsLineText url) →
      (∀ options, i.Sanitizes t urls options → options.skipBlankLines = true →
        ∀ url ∈ urls, isBlankLine url.toList = false) →
      SameRun t i i' ∧ ∀ options, i.Sanitizes t urls options →
        Batch.countRefused (Batch.inputs options urls i.stream)
          = Batch.countRefused (Batch.inputs options [] i'.stream)) ∧
    ∀ stream, SameRun t i { i with stream := stream } := by
  refine ⟨fun i' henv hasks' hwritten hlines hkept => ⟨?_, fun options hoptions => ?_⟩,
    fun stream => ?_⟩
  · refine sameRun_of_run_eq henv hasks hasks' fun options hoptions => ?_
    rw [Batch.run_of_ne_nil hne,
      (Batch.run_of_writtenLines hwritten hlines (hkept options hoptions)).2]
  · rw [(Batch.run_of_writtenLines hwritten hlines (hkept options hoptions)).1,
      Batch.inputs_of_ne_nil hne]
  · refine sameRun_of_run_eq rfl hasks hasks fun options _ => ?_
    rw [Batch.run_of_ne_nil hne, Batch.run_of_ne_nil hne]

/-- One line with either ending and one with none. -/
theorem sameRun_of_writtenLines_mixed :
    let urls := ["/a", "javascript:x", "/é"]
    let i := Invocation.ofArguments ("sanitize" :: "--format=json" :: urls)
    let i' : Invocation .standIn := { Invocation.ofArguments ["sanitize", "--format=json"] with
      stream := toBytes "/a\r\njavascript:x\n/é" }
    SameRun .empty i i' ∧ SameRun .empty i { i with stream := [0xff, 0x0a] } := by
  intro urls i i'
  have hasks : i.Asks (.sanitize urls (some .json)) := eq_ok_of_toOption (by decide +kernel)
  have hasks' : i'.Asks (.sanitize [] (some .json)) := eq_ok_of_toOption (by decide +kernel)
  have hstream : i'.stream
      = toBytes "/a" ++ 13 :: 10 :: (toBytes "javascript:x" ++ 10 :: toBytes "/é") := by decide
  have hwritten : WrittenLines urls i'.stream := by
    rw [hstream]
    exact .returnNewline (.newline (.unended (by decide)))
  obtain ⟨hinput, hstream⟩ := sameRun_of_writtenLines (t := .empty) hasks (by decide)
  exact ⟨(hinput i' rfl hasks' hwritten (by decide) fun _ _ _ => by decide).1, hstream _⟩

end LinkGate.Command
