import LinkGate.Proofs.Command.Run
import LinkGate.Proofs.Text.Lines
import LinkGate.Proofs.Url.Sanitized

/-!
# Lines of plain output

In plain format a batch writes each sanitized URL as it is, and a line feed. A safe URL may hold a
line feed of its own, and then a reader of the output sees more lines than there were URLs, of which
those after the first were never judged. So there is one sound line for each URL if no safe URL
holds a line feed, and then only (`linePerUrl_iff`). A URL that is read from the input stream never
does; one that is given as an argument may.
-/

namespace LinkGate.Command

open Text

variable {texts : Texts} {options : BatchOptions} {urls : List String} {url : String}
  {stream : List UInt8}

namespace Batch

/-- The URLs of a batch: the given ones or, if there are none, the lines that are kept of the
stream. -/
def inputs (options : BatchOptions) (urls : List String) (stream : List UInt8) : List String :=
  if urls.isEmpty then keptLines options (Lines.read stream).texts else urls

/-- Arguments and input are written in the same way. -/
theorem output_run (options : BatchOptions) (urls : List String) (stream : List UInt8) :
    (run options urls stream).output
      = outputForAll options.format (inputs options urls stream) := by
  unfold run inputs
  split
  · unfold ofStream
    simp only
    split <;> rfl
  · rfl

/-- The output in plain format is the sanitized URLs as lines. -/
theorem outputForAll_plain (urls : List String) :
    outputForAll .plain urls = ofLines (urls.map fun url => (Url.sanitize url).value) := by
  rw [outputForAll, ofLines, List.map_map]
  rfl

theorem mem_of_mem_keptLines {lines : List String} (h : url ∈ keptLines options lines) :
    url ∈ lines := by
  unfold keptLines at h
  split at h
  · exact (List.mem_filter.mp h).1
  · exact h

end Batch

/-- Cut at its line feeds the output is one line for each URL, and each line is safe by itself or is
the placeholder. -/
def LinePerUrl (output : String) (urls : List String) : Prop :=
  ∃ lines, HasLines output lines ∧ lines.length = urls.length ∧
    ∀ line ∈ lines, Url.isSafe line = true ∨ line = Url.placeholder

/-- A text has its lines in one way, so a wrong number of them settles the matter. -/
theorem not_linePerUrl {output : String} {lines : List String} (h : HasLines output lines)
    (hlength : lines.length ≠ urls.length) : ¬ LinePerUrl output urls := by
  rintro ⟨lines', hlines', hlength', -⟩
  rw [h.unique hlines'] at hlength
  exact hlength hlength'

/-- A line feed comes from a safe URL alone, because the placeholder has none. -/
theorem newline_not_mem_value_iff : '\n' ∉ (Url.sanitize url).value.toList ↔
    (Url.isSafe url = true → '\n' ∉ url.toList) := by
  by_cases hsafe : Url.isSafe url = true
  · rw [Url.sanitize_of_isSafe hsafe]
    simp [hsafe]
  · rw [Url.value_sanitize_of_not_isSafe hsafe]
    have hplaceholder : '\n' ∉ Url.placeholder.toList := by decide
    simp [hsafe, hplaceholder]

/-- There is one line for each URL exactly if no safe one has a line feed. -/
theorem linePerUrl_iff : LinePerUrl (Batch.outputForAll .plain urls) urls ↔
    ∀ url ∈ urls, Url.isSafe url = true → '\n' ∉ url.toList := by
  have hvalues : (∀ line ∈ urls.map fun url => (Url.sanitize url).value, '\n' ∉ line.toList) ↔
      ∀ url ∈ urls, Url.isSafe url = true → '\n' ∉ url.toList := by
    rw [List.forall_mem_map]
    exact forall₂_congr fun _ _ => newline_not_mem_value_iff
  rw [Batch.outputForAll_plain, ← hvalues]
  refine ⟨fun h => ?_, fun h => ?_⟩
  · obtain ⟨lines, hlines, hlength, -⟩ := h
    exact hlines.newline_not_mem (by rw [hlength, List.length_map])
  · refine ⟨_, hasLines_ofLines_iff.mpr h, List.length_map _, ?_⟩
    rw [List.forall_mem_map]
    exact fun url _ => (Url.sanitize url).safe_or_placeholder

/-- A run in plain format writes its sanitized inputs. -/
theorem output_of_plain {i : Invocation texts} {t : Files.Tree} (h : i.Sanitizes t urls options)
    (hplain : options.format = .plain) :
    (i.report t).output = Batch.outputForAll .plain (Batch.inputs options urls i.stream) := by
  rw [Invocation.output_of_sanitizes h, Batch.output_run, hplain]

/-- The plain output of a run that succeeds is its sanitized URLs in order, each with a line feed.
It is one sound line for each URL if no safe URL holds a line feed, and then only; for the URLs of
an input stream it always is. -/
theorem linePerUrl_of_plain {i : Invocation texts} {t : Files.Tree} {format : Option OutputFormat}
    (hasks : i.Asks (.sanitize urls format)) (hexit : (i.report t).exitCode = 0) :
    ∃ options, i.Sanitizes t urls options ∧ (options.format = .plain →
      (i.report t).output = ofLines ((Batch.inputs options urls i.stream).map fun url =>
          (Url.sanitize url).value) ∧
        (LinePerUrl (i.report t).output (Batch.inputs options urls i.stream) ↔
          ∀ url ∈ Batch.inputs options urls i.stream,
            Url.isSafe url = true → '\n' ∉ url.toList) ∧
          (urls = [] →
            LinePerUrl (i.report t).output (Batch.inputs options urls i.stream))) := by
  obtain ⟨config, h⟩ := Invocation.sanitizes_of_exitCode hasks hexit
  refine ⟨_, h, fun hplain => ?_⟩
  rw [output_of_plain h hplain, linePerUrl_iff]
  refine ⟨Batch.outputForAll_plain _, Iff.rfl, ?_⟩
  rintro rfl url hmem _
  exact newline_not_mem_of_mem_read (Batch.mem_of_mem_keptLines hmem)

/-- Two lines for one URL, and the second is neither safe nor the placeholder. -/
theorem plain_output_smuggles_line :
    (Invocation.ofArguments
        ["sanitize", "--format", "plain", "a/\njavascript:alert(1)"]).report .empty
      = ⟨0, "a/\njavascript:alert(1)\n", ""⟩ ∧
    HasLines "a/\njavascript:alert(1)\n" ["a/", "javascript:alert(1)"] ∧
    Url.isSafe "javascript:alert(1)" = false ∧ "javascript:alert(1)" ≠ Url.placeholder ∧
    ¬ LinePerUrl "a/\njavascript:alert(1)\n" ["a/\njavascript:alert(1)"] := by
  have hlines : HasLines "a/\njavascript:alert(1)\n" ["a/", "javascript:alert(1)"] := by decide
  exact ⟨by decide +kernel, hlines, by decide, by decide, not_linePerUrl hlines (by decide)⟩

/-- Two URLs of which one is refused, and two sound lines. -/
theorem linePerUrl_of_plain_arguments :
    let i := Invocation.ofArguments ["sanitize", "/a?b", "javascript:alert(1)"]
    let urls := ["/a?b", "javascript:alert(1)"]
    i.Asks (.sanitize urls none) ∧ (i.report .empty).exitCode = 0 ∧
      LinePerUrl (i.report .empty).output urls := by
  intro i urls
  have hasks : i.Asks (.sanitize urls none) := eq_ok_of_toOption (by decide +kernel)
  have hexit : (i.report .empty).exitCode = 0 := by decide +kernel
  obtain ⟨options, hsanitizes, hlines⟩ := linePerUrl_of_plain hasks hexit
  have hoptions := hsanitizes.unique (Invocation.sanitizes_ofArguments hasks)
  subst hoptions
  exact ⟨hasks, hexit, (hlines rfl).2.1.mpr (by decide)⟩

end LinkGate.Command
