import LinkGate.Proofs.Command.Counts
import LinkGate.Proofs.Command.Stream

/-!
# Output that is fed back

In plain format the output of a batch is lines, so it can be the input of another batch. If each
carriage return of the first input belongs to the ending of a line, then no line holds one. So its
sanitized URLs can be told from the lines that they are written in, none of them is blank if blank
lines are passed over (`Settled`), and the next pass reads just these (`inputs_ofLines`). Sanitizing
changes them no more, and the placeholder is refused again, once for each time that it stands there.

Without the condition one pass is not enough: a line that ends in three carriage returns gives up
two of them to each pass.
-/

namespace LinkGate.Text

variable {s : List Char} {lines : List (List Char)}

/-- Carriage returns stand at the ends of lines only: a line feed follows each. -/
def ReturnsEndLines (s : List Char) : Prop :=
  ∀ before after, s = before ++ '\r' :: after → after.head? = some '\n'

theorem returnsEndLines_cons {c : Char} :
    ReturnsEndLines (c :: s) ↔ (c = '\r' → s.head? = some '\n') ∧ ReturnsEndLines s := by
  constructor
  · intro h
    refine ⟨fun hc => h [] s (by rw [hc]; rfl), fun before after hs => ?_⟩
    exact h (c :: before) after (by rw [hs]; rfl)
  · rintro ⟨hhead, htail⟩ before after h
    cases before with
    | nil =>
      obtain ⟨rfl, rfl⟩ := List.cons_eq_cons.mp h
      exact hhead rfl
    | cons first before =>
      obtain ⟨rfl, hs⟩ := List.cons_eq_cons.mp h
      exact htail before after hs

instance decidableReturnsEndLines : (s : List Char) → Decidable (ReturnsEndLines s)
  | [] => .isTrue fun _ _ h => absurd h (by simp)
  | _ :: s =>
    have := decidableReturnsEndLines s
    decidable_of_iff _ returnsEndLines_cons.symm

/-- Then they all belong to the endings. -/
theorem Framed.return_not_mem (h : Framed s lines) (hreturns : ReturnsEndLines s) :
    ∀ line ∈ lines, '\r' ∉ line := by
  induction h with
  | nil => exact nofun
  | @unended line n hne hline hn hlast =>
    rw [List.forall_mem_singleton]
    intro hmem
    obtain ⟨a, b, rfl⟩ := List.append_of_mem hmem
    have hhead := hreturns a (b ++ List.replicate n '\r') (by simp)
    -- no line feed comes after it
    have hb : '\n' ∉ b := fun hmem => hline (by simp [hmem])
    exact newline_not_mem_append_replicate hb n (List.mem_of_head? hhead)
  | @ended line rest lines n hline hn hlast hrest ih =>
    have hreturns' : ReturnsEndLines rest := by
      rintro before after rfl
      exact hreturns (line ++ List.replicate n '\r' ++ '\n' :: before) after (by simp)
    refine List.forall_mem_cons.mpr ⟨fun hmem => ?_, ih hreturns'⟩
    obtain ⟨a, b, rfl⟩ := List.append_of_mem hmem
    have hhead := hreturns a (b ++ List.replicate n '\r' ++ '\n' :: rest) (by simp)
    have hb : '\n' ∉ b := fun hmem => hline (by simp [hmem])
    have hnone := newline_not_mem_append_replicate hb n
    -- the line feed is that of the ending, so the line ends in the carriage return
    cases hcut : b ++ List.replicate n '\r' with
    | nil =>
      obtain ⟨rfl, hn⟩ := List.append_eq_nil_iff.mp hcut
      obtain rfl : n = 0 := by simpa using hn
      exact hlast (by omega) (by simp)
    | cons c r =>
      rw [hcut] at hhead hnone
      cases hhead
      exact hnone List.mem_cons_self

/-- A text with neither a line feed nor a carriage return is read from its line as it was
written. -/
theorem isLineText_of_return_not_mem {line : String} (hnewline : '\n' ∉ line.toList)
    (hreturn : '\r' ∉ line.toList) : IsLineText line :=
  ⟨hnewline, fun hlast => hreturn (List.mem_of_getLast? hlast)⟩

/-- Plain output is a stream of lines with line feeds. -/
theorem writtenLines_ofLines (lines : List String) :
    WrittenLines lines (toBytes (ofLines lines)) := by
  induction lines with
  | nil => exact .nil
  | cons line lines ih =>
    have hbytes : toBytes (ofLines (line :: lines))
        = toBytes line ++ 10 :: toBytes (ofLines lines) := by
      rw [toBytes, toList_ofLines_cons, Utf8.encode_append, Utf8.encode_cons]
      rfl
    rw [hbytes]
    exact .newline ih

end LinkGate.Text

namespace LinkGate.Command

open Files Text

variable {options : BatchOptions} {urls : List String} {text : String} {skip : Bool}

/-! ## One pass -/

def sanitized (urls : List String) : List String :=
  urls.map fun url => (Url.sanitize url).value

/-- Sanitizing twice is sanitizing once. -/
theorem sanitized_sanitized (urls : List String) : sanitized (sanitized urls) = sanitized urls := by
  rw [sanitized, sanitized, List.map_map]
  apply List.map_congr_left
  intro url _
  exact congrArg SanitizedUrl.value (Url.sanitize url).sanitize_value

/-- The second time as many URLs are refused as the first, because the placeholder is. -/
theorem countRefused_sanitized (urls : List String) :
    Batch.countRefused (sanitized urls) = Batch.countRefused urls := by
  rw [← Batch.count_placeholder, ← Batch.count_placeholder]
  exact congrArg _ (sanitized_sanitized urls)

/-- The URLs can be written into a stream and read from it again. -/
def Settled (skip : Bool) (urls : List String) : Prop :=
  ∀ url ∈ urls, IsLineText url ∧ (skip = true → isBlankLine url.toList = false)

/-- Sanitized lines stay settled: a safe URL is itself, and the placeholder has no line feed and is
not blank. -/
theorem settled_sanitized (h : Settled skip urls) : Settled skip (sanitized urls) := by
  have hplaceholder : IsLineText Url.placeholder ∧
      (skip = true → isBlankLine Url.placeholder.toList = false) :=
    ⟨by decide, fun _ => by decide⟩
  rw [Settled, sanitized, List.forall_mem_map]
  intro url hurl
  by_cases hsafe : Url.isSafe url = true
  · rw [Url.sanitize_of_isSafe hsafe]
    exact h url hurl
  · rw [Url.value_sanitize_of_not_isSafe hsafe]
    exact hplaceholder

/-- What a first pass reads is settled, if no carriage return is left at the end of a line. -/
theorem settled_inputs (hreturns : ReturnsEndLines text.toList) :
    Settled options.skipBlankLines (Batch.inputs options [] (toBytes text)) := by
  rw [Batch.inputs_nil]
  intro url hurl
  have hread := Batch.mem_of_mem_keptLines hurl
  constructor
  · apply isLineText_of_return_not_mem (newline_not_mem_of_mem_read hread)
    rw [read_toBytes] at hread
    obtain ⟨line, hline, rfl⟩ := List.mem_map.mp hread
    rw [String.toList_ofList]
    exact (framed_framedLines _).return_not_mem hreturns line hline
  · intro hskip
    rw [Batch.keptLines, if_pos hskip] at hurl
    simpa using (List.mem_filter.mp hurl).2

/-- A pass over the output of another one reads the sanitized URLs of that. -/
theorem inputs_ofLines (h : Settled options.skipBlankLines urls) :
    Batch.inputs options [] (toBytes (ofLines urls)) = urls :=
  (Batch.run_of_writtenLines (writtenLines_ofLines urls) (fun url hurl => (h url hurl).1)
    fun hskip url hurl => (h url hurl).2 hskip).1

/-! ## Pass after pass -/

/-- A run over its input. -/
structure Pass (texts : Texts) where
  run : Invocation texts
  tree : Tree
  options : BatchOptions

namespace Pass

variable {texts : Texts} {pass : Pass texts}

def output (pass : Pass texts) : String :=
  (pass.run.report pass.tree).output

def inputs (pass : Pass texts) : List String :=
  Batch.inputs pass.options [] pass.run.stream

structure IsPlain (pass : Pass texts) (skip : Bool) : Prop where
  sanitizes : pass.run.Sanitizes pass.tree [] pass.options
  plain : pass.options.format = .plain
  skip : pass.options.skipBlankLines = skip

/-- A pass writes the sanitized inputs as lines. -/
theorem output_of_isPlain (h : pass.IsPlain skip) :
    pass.output = ofLines (sanitized pass.inputs) := by
  rw [output, output_of_plain h.sanitizes h.plain, Batch.outputForAll_plain]
  rfl

/-- A pass over a text succeeds. -/
theorem exitCode_of_isPlain (h : pass.IsPlain skip) (hstream : pass.run.stream = toBytes text) :
    (pass.run.report pass.tree).exitCode = 0 := by
  rw [Invocation.exitCode_of_sanitizes h.sanitizes, Batch.unreadLine_run, hstream, read_toBytes]
  rfl

/-- A pass reads from the output of another what that one wrote. -/
theorem inputs_of_output {before : Pass texts} (h : pass.IsPlain skip)
    (hbefore : before.IsPlain skip) (hstream : pass.run.stream = toBytes before.output)
    (hsettled : Settled skip before.inputs) :
    pass.inputs = sanitized before.inputs := by
  rw [inputs, hstream, output_of_isPlain hbefore]
  apply inputs_ofLines
  rw [h.skip]
  exact settled_sanitized hsettled

end Pass

variable {texts : Texts} {passes : Nat → Pass texts}

/-- Passes in plain format over a text, then over the output of the first pass, and so on. Each may
run in an environment and in a tree of its own. -/
structure Passes (text : String) (skip : Bool) (passes : Nat → Pass texts) : Prop where
  isPlain : ∀ n, (passes n).IsPlain skip
  first : (passes 0).run.stream = toBytes text
  next : ∀ n, (passes (n + 1)).run.stream = toBytes (passes n).output

/-- The URLs change in the first pass, if at all. -/
theorem Passes.inputs_eq (h : Passes text skip passes) (hreturns : ReturnsEndLines text.toList)
    (n : Nat) : Settled skip (passes n).inputs ∧
      sanitized (passes n).inputs = sanitized (passes 0).inputs ∧
        Batch.countRefused (passes n).inputs = Batch.countRefused (passes 0).inputs := by
  induction n with
  | zero =>
    refine ⟨?_, rfl, rfl⟩
    rw [← (h.isPlain 0).skip, Pass.inputs, h.first]
    exact settled_inputs hreturns
  | succ n ih =>
    obtain ⟨hsettled, hinputs, hcount⟩ := ih
    rw [Pass.inputs_of_output (h.isPlain (n + 1)) (h.isPlain n) (h.next n) hsettled,
      sanitized_sanitized, countRefused_sanitized]
    exact ⟨settled_sanitized hsettled, hinputs, hcount⟩

/-- Each pass is over a text, so it succeeds. -/
theorem Passes.exists_stream_eq (h : Passes text skip passes) (n : Nat) :
    ∃ text, (passes n).run.stream = toBytes text := by
  cases n with
  | zero => exact ⟨text, h.first⟩
  | succ n => exact ⟨_, h.next n⟩

/-- The pass succeeds, has the output of the first one, and tells of so many refused URLs. -/
structure Pass.Repeats (pass first : Pass texts) (count : Nat) : Prop where
  exitCode : (pass.run.report pass.tree).exitCode = 0
  output : pass.output = first.output
  counts : CountsAgree pass.run pass.tree pass.options pass.inputs count

/-- **Sanitizing is idempotent.** If each carriage return of a text is followed by a line feed, then
all passes over it succeed and have the same output, and all that they tell of refused URLs agrees
on one number. -/
theorem passes_agree (h : Passes text skip passes) (hreturns : ReturnsEndLines text.toList) :
    ∃ count, ∀ n, (passes n).Repeats (passes 0) count := by
  refine ⟨Batch.countRefused (passes 0).inputs, fun n => ?_⟩
  obtain ⟨-, hinputs, hcount⟩ := h.inputs_eq hreturns n
  obtain ⟨_, hstream⟩ := h.exists_stream_eq n
  have hexit := Pass.exitCode_of_isPlain (h.isPlain n) hstream
  refine ⟨hexit, ?_, ?_⟩
  · rw [Pass.output_of_isPlain (h.isPlain n), Pass.output_of_isPlain (h.isPlain 0), hinputs]
  · rw [← hcount]
    exact countsAgree_of_sanitizes (h.isPlain n).sanitizes hexit

/-- Both endings, a blank line and a last line without an ending. -/
theorem passes_agree_mixed :
    let text := "/a\r\njavascript:x\n\r\n/b"
    let pass (stream : List UInt8) : Pass .standIn :=
      ⟨{ Invocation.ofArguments ["sanitize"] with stream := stream }, .empty,
        batchOptions .default none⟩
    let passes : Nat → Pass .standIn
      | 0 => pass (toBytes text)
      | _ + 1 => pass (toBytes "/a\nabout:invalid#zGoSafez\n/b\n")
    Passes text true passes ∧ ReturnsEndLines text.toList ∧
      ∃ count, ∀ n, (passes n).Repeats (passes 0) count := by
  intro text pass passes
  have hplain (stream : List UInt8) : (pass stream).IsPlain true :=
    ⟨Invocation.sanitizes_ofArguments (eq_ok_of_toOption (by decide +kernel)), rfl, rfl⟩
  have hfirst : (pass (toBytes text)).output = "/a\nabout:invalid#zGoSafez\n/b\n" := by
    decide +kernel
  have hagain : (pass (toBytes "/a\nabout:invalid#zGoSafez\n/b\n")).output
      = "/a\nabout:invalid#zGoSafez\n/b\n" := by decide +kernel
  have hpasses : Passes text true passes := by
    refine ⟨fun n => ?_, rfl, fun n => ?_⟩
    · cases n <;> exact hplain _
    · cases n with
      | zero => exact congrArg toBytes hfirst.symm
      | succ n => exact congrArg toBytes hagain.symm
  have hreturns : ReturnsEndLines text.toList := by decide
  exact ⟨hpasses, hreturns, passes_agree hpasses hreturns⟩

/-- Three carriage returns are more than one pass takes away. -/
example :
    let options : BatchOptions := ⟨.plain, true, true⟩
    (Batch.ofStream options (toBytes "/a\r\r\r\n")).output = "/a\r\n" ∧
      (Batch.ofStream options (toBytes "/a\r\n")).output = "/a\n" := by
  decide +kernel

end LinkGate.Command
