import LinkGate.Proofs.Command.Events
import LinkGate.Proofs.Text.WellFormed

/-!
# Batches from the input

Without URLs among its arguments a run sanitizes the lines of its input. If the input is text, the
URLs are the lines of that text, but for blank ones if the settings say so
(`Batch.ofStream_toBytes`).

If it is not, the run stops at the line in which the first ill-formed sequence begins. What it has
done by then is what it would have done with the lines before and no more input, apart from the last
event (`Batch.run_of_illFormedAt`). The number of that line counts every line feed of the input,
those of blank lines too, so it does not depend on which lines are sanitized.
-/

namespace LinkGate.Command

open Files Text

variable {texts : Texts} {options : BatchOptions} {stream : List UInt8} {i : Invocation texts}
  {t : Tree} {p n : Nat}

/-! ## Input that is text -/

namespace Batch

theorem keptLines_map_ofList (options : BatchOptions) (lines : List (List Char)) :
    keptLines options (lines.map String.ofList) =
      (lines.filter fun line => !(options.skipBlankLines && isBlankLine line)).map
        String.ofList := by
  unfold keptLines
  cases options.skipBlankLines with
  | false => simp
  | true =>
    rw [if_pos rfl, List.filter_map]
    congr 2
    funext line
    rw [Function.comp_apply, String.toList_ofList, Bool.true_and]

/-- **The batch of a text is that of its lines.** Line feeds cut the text, each piece loses up to
two carriage returns at its end, or one if no line feed follows, and a last piece that is empty is
none; nothing else of the text is lost, so these are the only lines that it can be put together
from. The blank ones are left out if the settings say so. The output is that of the others one after
another, and the last event tells how many of them are refused. -/
theorem ofStream_toBytes (options : BatchOptions) (text : String) :
    let lines := framedLines text.toList
    let urls := (lines.filter fun line =>
      !(options.skipBlankLines && isBlankLine line)).map String.ofList
    (∀ lines', Framed text.toList lines' ↔ lines' = lines) ∧
      inputs options [] (toBytes text) = urls ∧
      ofStream options (toBytes text) =
        { output := String.join (urls.map (outputFor options.format))
          events := Log.rejections urls ++
            [lastEvent options (urls.countP fun url => !(Url.classify url).isSafe)]
          unreadLine := none } := by
  intro lines urls
  have hurls : keptLines options (Lines.read (toBytes text)).texts = urls := by
    rw [read_toBytes]
    exact keptLines_map_ofList options lines
  refine ⟨fun _ => framed_iff, hurls, ?_⟩
  have hread : (Lines.read (toBytes text)).undecodable = none := by rw [read_toBytes]
  rw [ofStream]
  simp only [hread, hurls]
  rfl

/-! ## Input that is not -/

/-- The lines before the place are the lines of a batch, and the one with the place stops it. -/
theorem run_of_illFormedAt (options : BatchOptions) (h : IllFormedAt stream p) :
    inputs options [] stream
        = inputs options [] (firstLines ((stream.take p).count 10) stream) ∧
      (run options [] stream).unreadLine = some ((stream.take p).count 10 + 1) ∧
      (run options [] (firstLines ((stream.take p).count 10) stream)).unreadLine = none := by
  obtain ⟨texts, hread, hfirst⟩ := readFrom_cut_of_illFormedAt h 1
  rw [inputs_nil, inputs_nil, unreadLine_run, unreadLine_run, Lines.read, Lines.read, hread, hfirst,
    Nat.add_comm 1]
  exact ⟨rfl, rfl, rfl⟩

end Batch

namespace Invocation

def onFirstLines (i : Invocation texts) (n : Nat) : Invocation texts :=
  { i with stream := firstLines n i.stream }

/-- The settings are loaded before the input is read, so less of it is sanitized with the same
settings. -/
theorem sanitizes_onFirstLines (h : i.Sanitizes t [] options) (n : Nat) :
    (i.onFirstLines n).Sanitizes t [] options := h

/-- A run on its input fails if the input is not text, and only then. -/
theorem exitCode_ne_zero_iff (h : i.Sanitizes t [] options) :
    (i.report t).exitCode ≠ 0 ↔ ¬ WellFormed i.stream := by
  rw [exitCode_of_sanitizes h, Batch.unreadLine_run, ← undecodable_read_eq_none_iff]
  cases (Lines.read i.stream).undecodable <;> simp

end Invocation

def unreadLineText (n : Nat) : String :=
  "safeurl error: read input line " ++ toString n ++ ": stream did not contain valid UTF-8"

theorem unreadLineText_eq (n : Nat) : unreadLineText n =
    "safeurl error: read input line " ++ toString n ++ ": stream did not contain valid UTF-8" := rfl

theorem message_inputLine (n : Nat) : (Failure.inputLine n).message texts =
    "read input line " ++ toString n ++ ": stream did not contain valid UTF-8" := rfl

theorem errorText_inputLine (n : Nat) :
    programName ++ " error: " ++ (Failure.inputLine n).message texts = unreadLineText n := by
  have hwords : programName ++ " error: " ++ "read input line "
      = "safeurl error: read input line " := by decide
  rw [message_inputLine, unreadLineText_eq, ← hwords]
  simp only [String.append_assoc]

/-- The error is told on one line. -/
theorem newline_not_mem_unreadLineText (n : Nat) : '\n' ∉ (unreadLineText n).toList := by
  have hdigits : '\n' ∉ (toString n).toList := by
    rw [Nat.toString_eq_repr, Nat.toList_repr]
    exact fun hmem => absurd (Nat.isDigit_of_mem_toDigits (by decide) (by decide) hmem) (by decide)
  rw [unreadLineText_eq, String.toList_append, String.toList_append, List.mem_append,
    List.mem_append, not_or, not_or]
  exact ⟨⟨by decide, hdigits⟩, by decide⟩

/-- What a run shows that could not go on after the first `n` lines of its input. -/
structure StopsAfter (i : Invocation texts) (t : Tree) (options : BatchOptions) (n : Nat) :
    Prop where
  exitCode : (i.report t).exitCode = 1
  /-- The line that could not be read is the next one. -/
  error : EndsInLine (i.report t).errors (unreadLineText (n + 1))
  /-- The lines before it could be, and what is written is what is written for them alone. -/
  alone : ((i.onFirstLines n).report t).exitCode = 0
  output : (i.report t).output = ((i.onFirstLines n).report t).output
  /-- The replacements are those of these lines. -/
  replacements : (i.events t).filter Log.Event.isReplacement
    = Log.rejections (Batch.inputs options [] (firstLines n i.stream))
  /-- Nothing tells how many there are. -/
  noSummary : ∀ e ∈ i.events t, e.isSummary = false
  /-- That event alone is missing. -/
  events : (i.onFirstLines n).events t = i.events t ++
    [Batch.lastEvent options (Batch.countRefused (Batch.inputs options [] (firstLines n i.stream)))]

/-- A line that stops the batch is named in the last line of the error text. -/
theorem errors_of_unreadLine (h : i.Sanitizes t [] options)
    (hunread : (Batch.run options [] i.stream).unreadLine = some n) :
    EndsInLine (i.report t).errors (unreadLineText n) := by
  obtain ⟨request, hasks, -, hfailure⟩ := Invocation.effect_of_sanitizes h
  rw [hunread, Option.map_some] at hfailure
  have hline := newline_not_mem_unreadLineText n
  rw [← @errorText_inputLine texts] at hline ⊢
  exact Invocation.endsInLine_errors hasks hfailure hline

/-- A batch that is stopped has the events of the URLs before, and no summary. -/
theorem events_of_unreadLine (h : i.Sanitizes t [] options)
    (hunread : (Batch.run options [] i.stream).unreadLine = some n) :
    ∃ config, (Config.loadOrDefault (i.opened t) i.env).result = .ok config ∧
      i.events t = i.preamble t ++
        .loadedConfig config :: Log.rejections (Batch.inputs options [] i.stream) := by
  obtain ⟨config, hconfig, hevents⟩ := Invocation.events_of_sanitizes h
  rw [Batch.events_run, hunread] at hevents
  refine ⟨config, hconfig, ?_⟩
  rw [hevents]
  exact congrArg (i.preamble t ++ .loadedConfig config :: ·) (List.append_nil _)

/-- The batch stops at the line with the first ill-formed sequence, whose number is told by the line
feeds before it. -/
theorem stopsAfter_of_illFormedAt (h : i.Sanitizes t [] options) (hp : IllFormedAt i.stream p) :
    StopsAfter i t options ((i.stream.take p).count 10) := by
  obtain ⟨hinputs, hunread, hread⟩ := Batch.run_of_illFormedAt options hp
  have halone := Invocation.sanitizes_onFirstLines h ((i.stream.take p).count 10)
  obtain ⟨config, hconfig, hevents⟩ := events_of_unreadLine h hunread
  refine ⟨?_, errors_of_unreadLine h hunread, ?_, ?_, ?_, ?_, ?_⟩
  · rw [Invocation.exitCode_of_sanitizes h, hunread]
    rfl
  · rw [Invocation.exitCode_of_sanitizes halone, Invocation.onFirstLines, hread]
    rfl
  · rw [Invocation.output_of_sanitizes h, Invocation.output_of_sanitizes halone, Batch.output_run,
      Batch.output_run, hinputs]
    rfl
  · rw [filter_isReplacement_events h, hinputs]
  · rw [hevents, List.forall_mem_append, List.forall_mem_cons]
    exact ⟨fun e he => (events_preamble i t e he).2, rfl,
      fun e he => (Log.isReplacement_of_mem_rejections he).2⟩
  · -- both runs load the same settings, and sanitize the same lines
    obtain ⟨config', hconfig', hevents'⟩ := Invocation.events_of_sanitizes halone
    have hsame : config' = config := Except.ok.inj (hconfig'.symm.trans hconfig)
    have hpreamble : (i.onFirstLines ((i.stream.take p).count 10)).preamble t = i.preamble t := rfl
    rw [hevents', hevents, hsame, hpreamble, Batch.events_run, Invocation.onFirstLines, hread,
      hinputs, List.append_assoc]
    rfl

/-- **Input that is not text stops the batch at its line.** A run on its input fails if the input is
not text, and only then. It exits with code 1 then, and the last line of its error text says that
input line `n + 1` could not be read, where `n` is how many line feeds there are before the first
ill-formed sequence. It has written what it would have written for the first `n` lines alone, and it
has the same events but for the last one, which tells how many URLs were refused. -/
theorem stopsAfter_of_not_wellFormed (h : i.Sanitizes t [] options) :
    ((i.report t).exitCode ≠ 0 ↔ ¬ WellFormed i.stream) ∧
      (¬ WellFormed i.stream → ∃ p, IllFormedAt i.stream p ∧
        StopsAfter i t options ((i.stream.take p).count 10)) := by
  refine ⟨Invocation.exitCode_ne_zero_iff h, fun hnot => ?_⟩
  obtain ⟨p, hp⟩ := exists_illFormedAt hnot
  exact ⟨p, hp, stopsAfter_of_illFormedAt h hp⟩

/-- A line feed cuts a sequence short in the line after a blank one. -/
theorem stopsAfter_sequence_cut_short :
    let stream := toBytes "javascript:x\n\n/" ++ [0xE2, 0x82, 0x0A, 0x2F, 0x0A]
    let i : Invocation .standIn := { Invocation.ofArguments ["sanitize"] with stream := stream }
    let options := batchOptions .default none
    i.Sanitizes .empty [] options ∧ ¬ WellFormed stream ∧ (i.report .empty).exitCode ≠ 0 ∧
      StopsAfter i .empty options 2 := by
  intro stream i options
  have h : i.Sanitizes .empty [] options :=
    Invocation.sanitizes_ofArguments (eq_ok_of_toOption (by decide +kernel))
  have hnot : ¬ WellFormed stream := not_wellFormed_iff.mpr (by decide +kernel)
  obtain ⟨hexit, hstops⟩ := stopsAfter_of_not_wellFormed h
  obtain ⟨p, hp, hafter⟩ := hstops hnot
  -- the number of the line tells how many line feeds are before the place
  have hunread : (Batch.run options [] stream).unreadLine = some 3 := by decide +kernel
  rw [(Batch.run_of_illFormedAt options hp).2.1] at hunread
  have hcount : (stream.take p).count 10 = 2 := Nat.succ.inj (Option.some.inj hunread)
  exact ⟨h, hnot, hexit.mpr hnot, hcount ▸ hafter⟩

end LinkGate.Command
