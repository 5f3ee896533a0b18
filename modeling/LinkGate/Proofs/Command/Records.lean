import LinkGate.Proofs.Command.PlainOutput
import LinkGate.Proofs.Json.ReadBack
import Mathlib.Data.List.Forall2

/-!
# Lines of records

In the other format a batch writes one record for each URL, whatever the URL holds: a line feed is
escaped in a record, so each record is one line, and what is on the line reads back as the URL, as
what it was sanitized to and as its verdict (`recordOf_line`). So the URLs of a batch can be told
from its output (`readRecords?_outputForAll`).
-/

namespace LinkGate.Command

open Text

variable {texts : Texts} {options : BatchOptions} {urls : List String} {url line : String}
  {i : Invocation texts} {t : Files.Tree}

structure Record where
  input : String
  output : String
  safe : Bool
  deriving DecidableEq, Repr

namespace Record

def ofUrl (url : String) : Record :=
  ⟨url, (Url.sanitize url).value, Url.isSafe url⟩

/-- Takes a record from an object that has its three members and no others. -/
def ofJson? : Json → Option Record
  | .object [("input", .string input), ("output", .string output), ("safe", .boolean safe)] =>
    some ⟨input, output, safe⟩
  | _ => none

/-- A record is read as what it was made of. -/
theorem ofJson?_record (url : String) : ofJson? (Batch.record url) = some (ofUrl url) := rfl

/-- The verdict and what was sanitized tell the same. -/
theorem safe_ofUrl (url : String) :
    (ofUrl url).safe = true ↔ (ofUrl url).output ≠ Url.placeholder :=
  (not_iff_comm.mp Url.value_sanitize_eq_placeholder_iff_not_isSafe.symm).symm

end Record

/-! ## A line for each record -/

theorem numberFree_record (url : String) : (Batch.record url).NumberFree := by
  refine .object ?_
  simp [Json.NumberFree.string, Json.NumberFree.boolean]

/-- A record is on one line, whatever is in its URL. -/
theorem newline_not_mem_record (url : String) : '\n' ∉ (Batch.record url).toLine.toList := by
  rw [Json.toList_toLine]
  exact Json.newline_not_mem_render (numberFree_record url)

/-- The line is the record of the URL: it is an object of three members with these values, of which
the last tells whether the second is the URL or the placeholder. -/
structure RecordOf (url line : String) : Prop where
  parse : Json.parse? line = some (.object [("input", .string url),
    ("output", .string (Url.sanitize url).value), ("safe", .boolean (Url.isSafe url))])
  safe_iff : Url.isSafe url = true ↔ (Url.sanitize url).value ≠ Url.placeholder

/-- The line of a record tells all that it should. -/
theorem recordOf_line (url : String) : RecordOf url (Batch.record url).toLine :=
  ⟨Json.parse?_toLine (numberFree_record url), Record.safe_ofUrl url⟩

namespace Batch

/-- The output in JSON is the records as lines. -/
theorem outputForAll_json (urls : List String) :
    outputForAll .json urls = Text.ofLines (urls.map fun url => (record url).toLine) := by
  rw [outputForAll, Text.ofLines, List.map_map]
  rfl

theorem newline_not_mem_lines (urls : List String) :
    ∀ line ∈ urls.map fun url => (record url).toLine, '\n' ∉ line.toList := by
  rw [List.forall_mem_map]
  exact fun url _ => newline_not_mem_record url

/-- Cut at its line feeds it is these lines again. -/
theorem hasLines_outputForAll_json (urls : List String) :
    HasLines (outputForAll .json urls) (urls.map fun url => (record url).toLine) := by
  rw [outputForAll_json]
  exact hasLines_ofLines_iff.mpr (newline_not_mem_lines urls)

end Batch

/-! ## Records read back -/

def readRecord? (line : String) : Option Record :=
  (Json.parse? line).bind Record.ofJson?

/-- Takes the records from an output, if all its lines are records. -/
def readRecords? (output : String) : Option (List Record) :=
  (linesOf output).mapM readRecord?

/-- Each line is read back as the record of its URL. -/
theorem readRecord?_record (url : String) :
    readRecord? (Batch.record url).toLine = some (Record.ofUrl url) := by
  rw [readRecord?, Json.parse?_toLine (numberFree_record url)]
  exact Record.ofJson?_record url

/-- So is the whole output. -/
theorem readRecords?_outputForAll (urls : List String) :
    readRecords? (Batch.outputForAll .json urls) = some (urls.map Record.ofUrl) := by
  rw [readRecords?, (Batch.hasLines_outputForAll_json urls).linesOf_eq]
  induction urls with
  | nil => rfl
  | cons url urls ih =>
    rw [List.map_cons, List.mapM_cons, readRecord?_record, ih]
    rfl

/-- The records tell the URLs. -/
theorem map_input_ofUrl (urls : List String) :
    (urls.map Record.ofUrl).map Record.input = urls := by
  rw [List.map_map]
  exact List.map_id urls

/-- A run in JSON writes the records of its inputs. -/
theorem output_of_json (h : i.Sanitizes t urls options) (hjson : options.format = .json) :
    (i.report t).output = Batch.outputForAll .json (Batch.inputs options urls i.stream) := by
  rw [Invocation.output_of_sanitizes h, Batch.output_run, hjson]

/-- **The output in records is faithful.** It has a line feed for each URL that was done, the last
of them at its end, and cut at these it is one line for each URL, which is the record of that URL.
So the URLs are read back from the output, and no other URLs have the same output, in this run or in
another. -/
theorem records_of_json (h : i.Sanitizes t urls options) (hjson : options.format = .json) :
    (∃ lines, HasLines (i.report t).output lines ∧
      List.Forall₂ RecordOf (Batch.inputs options urls i.stream) lines) ∧
    (i.report t).output.toList.count '\n' = (Batch.inputs options urls i.stream).length ∧
    (Batch.inputs options urls i.stream ≠ [] →
      (i.report t).output.toList.getLast? = some '\n') ∧
    (readRecords? (i.report t).output).map (List.map Record.input)
      = some (Batch.inputs options urls i.stream) ∧
    ∀ {i' : Invocation texts} {t' : Files.Tree} {urls' : List String} {options' : BatchOptions},
      i'.Sanitizes t' urls' options' → options'.format = .json →
        (i'.report t').output = (i.report t).output →
          Batch.inputs options' urls' i'.stream = Batch.inputs options urls i.stream := by
  have houtput := output_of_json h hjson
  have hread : (readRecords? (i.report t).output).map (List.map Record.input)
      = some (Batch.inputs options urls i.stream) := by
    rw [houtput, readRecords?_outputForAll, Option.map_some, map_input_ofUrl]
  refine ⟨?_, ?_, fun hne => ?_, hread, ?_⟩
  · rw [houtput]
    refine ⟨_, Batch.hasLines_outputForAll_json _, ?_⟩
    rw [List.forall₂_map_right_iff, List.forall₂_same]
    exact fun url _ => recordOf_line url
  · rw [houtput, Batch.outputForAll_json, count_newline_ofLines (Batch.newline_not_mem_lines _),
      List.length_map]
  · rw [houtput, Batch.outputForAll_json]
    exact getLast?_ofLines (by simpa using hne)
  · intro i' t' urls' options' h' hjson' heq
    -- both lists are what is read from the one output
    rw [← heq, output_of_json h' hjson', readRecords?_outputForAll, Option.map_some,
      map_input_ofUrl] at hread
    exact Option.some.inj hread

/-- A URL with a line feed, quotes and a control, and one that is refused. -/
theorem records_of_json_arguments :
    let urls := ["/a\n\"b\"\x01", "javascript:é"]
    let i := Invocation.ofArguments ("sanitize" :: "--format=json" :: urls)
    (i.report .empty).output
      = "\x7b\"input\":\"/a\\n\\\"b\\\"\\u0001\",\"output\":\"/a\\n\\\"b\\\"\\u0001\"," ++
        "\"safe\":true\x7d\n" ++
        "\x7b\"input\":\"javascript:é\",\"output\":\"about:invalid#zGoSafez\"," ++
        "\"safe\":false\x7d\n" ∧
      (readRecords? (i.report .empty).output).map (List.map Record.input) = some urls := by
  intro urls i
  have hasks : i.Asks (.sanitize urls (some .json)) := eq_ok_of_toOption (by decide +kernel)
  have hsanitizes : i.Sanitizes .empty urls (batchOptions .default (some .json)) :=
    Invocation.sanitizes_ofArguments hasks
  exact ⟨by decide +kernel, (records_of_json hsanitizes rfl).2.2.2.1⟩

end LinkGate.Command
