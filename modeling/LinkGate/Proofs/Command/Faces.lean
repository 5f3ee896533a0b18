import LinkGate.Proofs.Command.Run
import LinkGate.Proofs.Html.Escape
import LinkGate.Proofs.Text.Lines
import LinkGate.Proofs.Url.Message
import LinkGate.Proofs.Url.Sanitized

/-!
# The faces of a verdict

The program shows its verdict on a URL in five ways: as a line, as a line with an exit code, as the
sanitized URL, as a record of it, and as an attribute. Each is computed by a path of its own.
Whatever the tree, the environment and the input of a run are, what it shows depends on the verdict
alone, and the verdict can be told from each: a message tells its reason (`verdictLine_injective`),
the placeholder is no safe URL (`value_sanitize_eq_placeholder_iff`), and escaped text can be read
back (`hrefAttribute_injective`).
-/

namespace LinkGate.Command

open Text Files

variable {texts : Texts} {u : String} {r : Url.Reason}
  {report checked strict plain json linked : Report}

inductive Face
  | check
  | strictCheck
  | plain
  | json
  | href
  deriving DecidableEq, Repr

/-- A run that is asked about the URL `u` in this way shows `report`. Where it sanitizes, its
settings are in order. -/
inductive Shows (u : String) : Face → Report → Prop
  | check {texts : Texts} {i : Invocation texts} {t : Tree} (h : i.Asks (.check u false)) :
    Shows u .check (i.report t)
  | strictCheck {texts : Texts} {i : Invocation texts} {t : Tree} (h : i.Asks (.check u true)) :
    Shows u .strictCheck (i.report t)
  | plain {texts : Texts} {i : Invocation texts} {t : Tree} {options : BatchOptions}
    (h : i.Sanitizes t [u] options) (hformat : options.format = .plain) :
    Shows u .plain (i.report t)
  | json {texts : Texts} {i : Invocation texts} {t : Tree} {options : BatchOptions}
    (h : i.Sanitizes t [u] options) (hformat : options.format = .json) :
    Shows u .json (i.report t)
  | href {texts : Texts} {i : Invocation texts} {t : Tree} (h : i.Asks (.href u)) :
    Shows u .href (i.report t)

/-- A URL after the separator is taken as it is, whatever it looks like. -/
theorem parse_sanitize_json (u : String) :
    parse ["sanitize", "--format", "json", "--", u] = .ok (.sanitize [u] (some .json)) := by
  have hverb : Token.of "sanitize" = .word := by decide
  have hname : Verb.ofName? "sanitize" = some .sanitize := by decide
  have hformat : Token.of "--format" = .long "format" none := by decide
  have hjson : Token.of "json" = .word := by decide
  have hend : Token.of "--" = .separator := by decide
  simp [parse, collect, hverb, hname, hformat, hjson, hend, Verb.shape, Verb.request, helpOption,
    Collected.empty, Collected.addValue, Collected.addWords, Collected.addWord,
    OutputFormat.ofName?, Except.map]

/-- Every text can be asked about in every way, because what follows `--` is never an option. -/
theorem exists_shows (u : String) (face : Face) : ∃ report, Shows u face report := by
  cases face with
  | check =>
    have hasks : parse ["check", "--", u] = .ok (.check u false) := by rfl
    exact ⟨(Invocation.ofArguments _).report .empty, .check hasks⟩
  | strictCheck =>
    have hasks : parse ["check", "--strict", "--", u] = .ok (.check u true) := by cbv
    exact ⟨(Invocation.ofArguments _).report .empty, .strictCheck hasks⟩
  | plain =>
    have hasks : parse ["sanitize", "--", u] = .ok (.sanitize [u] none) := by rfl
    have hsanitizes := Invocation.sanitizes_ofArguments hasks
    exact ⟨(Invocation.ofArguments _).report .empty, .plain hsanitizes rfl⟩
  | json =>
    have hsanitizes := Invocation.sanitizes_ofArguments (parse_sanitize_json u)
    exact ⟨(Invocation.ofArguments _).report .empty, .json hsanitizes rfl⟩
  | href =>
    have hasks : parse ["href", "--", u] = .ok (.href u) := by rfl
    exact ⟨(Invocation.ofArguments _).report .empty, .href hasks⟩

/-! ## Checks -/

def verdictLine : Url.Verdict → String
  | .safe => "safe"
  | .refused r => "unsafe: " ++ r.message

/-- The line of a verdict can be shown as it is. -/
theorem printable_verdictLine (v : Url.Verdict) : Printable (verdictLine v).toList := by
  cases v with
  | safe => decide
  | refused r =>
    rw [verdictLine, String.toList_append, printable_append]
    exact ⟨by decide, r.printable_message⟩

/-- In particular it is one line. -/
theorem newline_not_mem_verdictLine (v : Url.Verdict) : '\n' ∉ (verdictLine v).toList :=
  (printable_verdictLine v).newline_not_mem

/-- No reason reads like the verdict that a URL is safe. -/
theorem verdictLine_ne_safe (r : Url.Reason) : verdictLine (.refused r) ≠ "safe" := by
  intro h
  have hfirst : (verdictLine (.refused r)).toList[0]? = "safe".toList[0]? := by rw [h]
  rw [verdictLine, String.toList_append, List.getElem?_append_left (by decide)] at hfirst
  exact absurd hfirst (by decide)

/-- A verdict can be told from its line. -/
theorem verdictLine_injective : Function.Injective verdictLine := by
  intro v v' h
  cases v with
  | safe =>
    cases v' with
    | safe => rfl
    | refused r' => exact absurd h.symm (verdictLine_ne_safe r')
  | refused r =>
    cases v' with
    | safe => exact absurd h (verdictLine_ne_safe r)
    | refused r' =>
      have htext := congrArg String.toList h
      rw [verdictLine, verdictLine, String.toList_append, String.toList_append] at htext
      have hmessage := String.toList_inj.mp (List.append_cancel_left htext)
      rw [Url.Reason.message_injective hmessage]

/-- A check writes the verdict and nothing else, strict or not. -/
theorem output_check (t : Tree) (u : String) (strict : Bool) :
    (check t u strict).output = verdictLine (Url.classify u) ++ "\n" := by
  unfold check
  cases Url.classify u <;> rfl

/-- Only a strict check fails, and it fails for the reason of the refusal. -/
theorem failure_check (t : Tree) (u : String) (strict : Bool) : (check t u strict).failure
    = if strict then (Url.classify u).reason?.map .rejected else none := by
  unfold check
  cases Url.classify u <;> cases strict <;> rfl

/-- What a strict check says of a refusal. -/
def rejectedLine (r : Url.Reason) : String :=
  "safeurl error: url rejected: " ++ r.message

theorem rejectedLine_eq (r : Url.Reason) :
    rejectedLine r = "safeurl error: url rejected: " ++ r.message := rfl

theorem message_rejected (r : Url.Reason) :
    (Failure.rejected r).message texts = "url rejected: " ++ r.message := rfl

/-- It is the reason of the failure with the program's name in front. -/
theorem errorText_rejected (r : Url.Reason) :
    programName ++ " error: " ++ (Failure.rejected r).message texts = rejectedLine r := by
  have hwords : programName ++ " error: " ++ "url rejected: "
      = "safeurl error: url rejected: " := by decide
  rw [rejectedLine_eq, message_rejected, ← hwords, String.append_assoc, String.append_assoc,
    String.append_assoc]

/-- A reason does not break that line. -/
theorem newline_not_mem_rejectedLine (r : Url.Reason) : '\n' ∉ (rejectedLine r).toList := by
  rw [rejectedLine_eq, String.toList_append, List.mem_append, not_or]
  exact ⟨by decide, r.newline_not_mem_message⟩

/-- The line tells the reason. -/
theorem rejectedLine_injective : Function.Injective rejectedLine := by
  intro r r' h
  have htext := congrArg String.toList h
  rw [rejectedLine_eq, rejectedLine_eq, String.toList_append, String.toList_append] at htext
  exact Url.Reason.message_injective (String.toList_inj.mp (List.append_cancel_left htext))

theorem Shows.output_check (h : Shows u .check report) :
    report.output = verdictLine (Url.classify u) ++ "\n" := by
  cases h with
  | check h => rw [Invocation.output_of_asks h, Invocation.effect, execute, Command.output_check]

theorem Shows.exitCode_check (h : Shows u .check report) : report.exitCode = 0 := by
  cases h with
  | check h =>
    rw [Invocation.exitCode_of_asks h, Invocation.effect, execute, failure_check]
    rfl

/-- A strict check writes the same line. -/
theorem Shows.output_strictCheck (h : Shows u .strictCheck report) :
    report.output = verdictLine (Url.classify u) ++ "\n" := by
  cases h with
  | strictCheck h =>
    rw [Invocation.output_of_asks h, Invocation.effect, execute, Command.output_check]

/-- Its exit code is the verdict. -/
theorem Shows.exitCode_strictCheck (h : Shows u .strictCheck report) :
    report.exitCode = if (Url.classify u).isSafe then 0 else 1 := by
  cases h with
  | strictCheck h =>
    rw [Invocation.exitCode_of_asks h, Invocation.effect, execute, failure_check]
    cases Url.classify u <;> rfl

/-- A refusal is told on the standard error too, after the log if that goes there. -/
theorem Shows.errors_strictCheck (h : Shows u .strictCheck report)
    (hr : Url.classify u = .refused r) : EndsInLine report.errors (rejectedLine r) := by
  cases h with
  | @strictCheck texts i t h =>
    have hfailure : (i.effect t (.check u true)).failure = some (.rejected r) := by
      rw [Invocation.effect, execute, failure_check, hr]
      rfl
    have hline := newline_not_mem_rejectedLine r
    rw [← @errorText_rejected texts] at hline ⊢
    exact Invocation.endsInLine_errors h hfailure hline

/-! ## Sanitized -/

def recordLine (input output : String) (safe : Bool) : String :=
  (Json.object [("input", .string input), ("output", .string output),
    ("safe", .boolean safe)]).toLine

/-- A record ends in the truth value that it tells. -/
theorem toList_recordLine (input output : String) (safe : Bool) :
    ∃ front, (recordLine input output safe).toList
      = front ++ if safe then ['u', 'e', '\x7d'] else ['s', 'e', '\x7d'] := by
  rw [recordLine, Json.toLine, String.toList_ofList]
  cases safe with
  | false =>
    exact ⟨'\x7b' :: (Json.renderString "input".toList ++ ':' :: Json.renderString input.toList ++
      ',' :: (Json.renderString "output".toList ++ ':' :: Json.renderString output.toList ++
      ',' :: (Json.renderString "safe".toList ++ ':' :: ['f', 'a', 'l']))), by
        simp [Json.render, Json.renderMembers, Json.commaSeparated]⟩
  | true =>
    exact ⟨'\x7b' :: (Json.renderString "input".toList ++ ':' :: Json.renderString input.toList ++
      ',' :: (Json.renderString "output".toList ++ ':' :: Json.renderString output.toList ++
      ',' :: (Json.renderString "safe".toList ++ ':' :: ['t', 'r']))), by
        simp [Json.render, Json.renderMembers, Json.commaSeparated]⟩

/-- So records with different verdicts differ, whatever URLs are in them. -/
theorem recordLine_true_ne_false {input output input' output' : String} :
    recordLine input output true ≠ recordLine input' output' false := by
  intro h
  obtain ⟨front, hfront⟩ := toList_recordLine input output true
  obtain ⟨front', hfront'⟩ := toList_recordLine input' output' false
  rw [h, hfront'] at hfront
  have hend := (List.append_inj' hfront rfl).2
  revert hend
  decide

/-- The output for one URL, given as an argument, is its piece alone. -/
theorem output_run_singleton (options : BatchOptions) (u : String) (stream : List UInt8) :
    (Batch.run options [u] stream).output = Batch.outputFor options.format u := by
  show String.join [Batch.outputFor options.format u] = _
  rw [String.join_cons, String.join_nil, String.append_empty]

/-- In plain format the sanitized URL is all that is written. -/
theorem Shows.output_plain (h : Shows u .plain report) :
    report.output = (Url.sanitize u).value ++ "\n" := by
  cases h with
  | plain h hformat =>
    rw [Invocation.output_of_sanitizes h, output_run_singleton, hformat]
    rfl

/-- In JSON the record is. -/
theorem Shows.output_json (h : Shows u .json report) :
    report.output = recordLine u (Url.sanitize u).value (Url.isSafe u) ++ "\n" := by
  cases h with
  | json h hformat =>
    rw [Invocation.output_of_sanitizes h, output_run_singleton, hformat]
    rfl

theorem Shows.exitCode_plain (h : Shows u .plain report) : report.exitCode = 0 := by
  cases h with
  | plain h hformat =>
    rw [Invocation.exitCode_of_sanitizes h]
    rfl

theorem Shows.exitCode_json (h : Shows u .json report) : report.exitCode = 0 := by
  cases h with
  | json h hformat =>
    rw [Invocation.exitCode_of_sanitizes h]
    rfl

/-! ## The attribute -/

/-- An attribute tells its value, because escaped text can be read back. -/
theorem hrefAttribute_injective : Function.Injective Html.hrefAttribute := by
  intro value value' h
  have htext := congrArg String.toList h
  unfold Html.hrefAttribute at htext
  rw [String.toList_append, String.toList_append, String.toList_append, String.toList_append,
    Html.toList_escapeAttribute, Html.toList_escapeAttribute, List.append_assoc,
    List.append_assoc] at htext
  have hescaped := List.append_cancel_right (List.append_cancel_left htext)
  have hdecoded := congrArg Html.decode hescaped
  rw [Html.decode_escape, Html.decode_escape] at hdecoded
  exact String.toList_inj.mp hdecoded

/-- The attribute is that of the sanitized URL. -/
theorem Shows.output_href (h : Shows u .href report) :
    report.output = Html.hrefAttribute (Url.sanitize u).value ++ "\n" := by
  cases h with
  | href h =>
    rw [Invocation.output_of_asks h]
    rfl

theorem Shows.exitCode_href (h : Shows u .href report) : report.exitCode = 0 := by
  cases h with
  | href h =>
    rw [Invocation.exitCode_of_asks h]
    rfl

/-! ## All faces -/

/-- What one run of each kind shows of the URL `u`. -/
structure Agreement (u : String) (checked strict plain json linked : Report) : Prop where
  /-- A check prints the reason if the URL is refused for it, and only then. -/
  check_iff : ∀ r, Url.classify u = .refused r ↔
    checked.exitCode = 0 ∧ HasLines checked.output ["unsafe: " ++ r.message]
  /-- A strict check fails with the reason if the URL is refused for it, and only then. -/
  strict_iff : ∀ r, Url.classify u = .refused r ↔ strict.exitCode = 1 ∧
    EndsInLine strict.errors ("safeurl error: url rejected: " ++ r.message)
  strict_output : strict.output = checked.output
  /-- The placeholder stands for refused URLs only. -/
  plain_iff : (∃ r, Url.classify u = .refused r) ↔ plain.output = Url.placeholder ++ "\n"
  json_iff : (∃ r, Url.classify u = .refused r) ↔
    json.output = recordLine u Url.placeholder false ++ "\n"
  href_iff : (∃ r, Url.classify u = .refused r) ↔
    linked.output = "href=\"about:invalid#zGoSafez\"\n"
  /-- A URL that is not refused is shown itself. -/
  of_safe : Url.classify u = .safe →
    checked.output = "safe\n" ∧ checked.exitCode = 0 ∧ strict.exitCode = 0 ∧
      plain.output = u ++ "\n" ∧ json.output = recordLine u u true ++ "\n" ∧
        linked.output = Html.hrefAttribute u ++ "\n"
  /-- Only a strict check fails. -/
  exitCode : plain.exitCode = 0 ∧ json.exitCode = 0 ∧ linked.exitCode = 0

theorem append_newline_inj {s s' : String} (h : s ++ "\n" = s' ++ "\n") : s = s' := by
  have htext := congrArg String.toList h
  rw [String.toList_append, String.toList_append] at htext
  exact String.toList_inj.mp (List.append_cancel_right htext)

theorem exists_refused_iff : (∃ r, Url.classify u = .refused r) ↔ ¬ Url.isSafe u = true := by
  rw [Url.isSafe_eq_true_iff]
  cases Url.classify u <;> simp

/-- The placeholder is no safe URL, so it is the value of the refused URLs and of no others. -/
theorem value_sanitize_eq_placeholder_iff :
    (Url.sanitize u).value = Url.placeholder ↔ ∃ r, Url.classify u = .refused r := by
  rw [exists_refused_iff, Url.value_sanitize_eq_placeholder_iff_not_isSafe]

/-- The five ways to show a verdict agree on every URL. -/
theorem faces_agree (hchecked : Shows u .check checked) (hstrict : Shows u .strictCheck strict)
    (hplain : Shows u .plain plain) (hjson : Shows u .json json) (hlinked : Shows u .href linked) :
    Agreement u checked strict plain json linked where
  check_iff := by
    intro r
    rw [hchecked.output_check, hchecked.exitCode_check, eq_self, true_and]
    have hlines := hasLines_singleton (newline_not_mem_verdictLine (Url.classify u))
    refine ⟨fun h => ?_, fun h => ?_⟩
    · rw [h] at hlines ⊢
      exact hlines
    · have hline := List.singleton_inj.mp (hlines.unique h)
      exact verdictLine_injective hline
  strict_iff := by
    intro r
    rw [hstrict.exitCode_strictCheck]
    -- the exit code tells that there is a reason, and the last line which
    refine ⟨fun h => ⟨by rw [h]; rfl, hstrict.errors_strictCheck h⟩, fun ⟨hexit, hline⟩ => ?_⟩
    cases hverdict : Url.classify u with
    | safe =>
      rw [hverdict] at hexit
      cases hexit
    | refused r' =>
      have hsame := (hstrict.errors_strictCheck hverdict).unique hline
      rw [rejectedLine_injective hsame]
  strict_output := by rw [hstrict.output_strictCheck, hchecked.output_check]
  plain_iff := by
    rw [← value_sanitize_eq_placeholder_iff, hplain.output_plain]
    exact ⟨fun h => by rw [h], append_newline_inj⟩
  json_iff := by
    rw [hjson.output_json]
    refine ⟨fun h => ?_, fun h => ?_⟩
    · have hsafe := exists_refused_iff.mp h
      rw [value_sanitize_eq_placeholder_iff.mpr h, eq_false_of_ne_true hsafe]
    · -- the record of a safe URL ends in the other truth value
      rw [exists_refused_iff]
      intro hsafe
      rw [hsafe] at h
      exact recordLine_true_ne_false (append_newline_inj h)
  href_iff := by
    have hplaceholder : Html.hrefAttribute Url.placeholder ++ "\n"
        = "href=\"about:invalid#zGoSafez\"\n" := by decide
    rw [← value_sanitize_eq_placeholder_iff, hlinked.output_href, ← hplaceholder]
    exact ⟨fun h => by rw [h], fun h => hrefAttribute_injective (append_newline_inj h)⟩
  of_safe := by
    intro h
    have hsafe : Url.isSafe u = true := Url.isSafe_eq_true_iff.mpr h
    rw [hchecked.output_check, hchecked.exitCode_check, hstrict.exitCode_strictCheck,
      hplain.output_plain, hjson.output_json, hlinked.output_href, h, hsafe,
      Url.sanitize_of_isSafe hsafe]
    exact ⟨rfl, rfl, rfl, rfl, rfl, rfl⟩
  exitCode := ⟨hplain.exitCode_plain, hjson.exitCode_json, hlinked.exitCode_href⟩

/-- The agreement on a URL that is refused, in runs that start from an empty tree. -/
theorem faces_agree_script :
    let u := "javascript:alert(1)"
    let ask := fun arguments => (Invocation.ofArguments arguments).report .empty
    Shows u .check (ask ["check", u]) ∧ Shows u .strictCheck (ask ["check", "--strict", u]) ∧
      Shows u .plain (ask ["sanitize", u]) ∧
        Shows u .json (ask ["sanitize", "--format=json", u]) ∧ Shows u .href (ask ["href", u]) ∧
          Agreement u (ask ["check", u]) (ask ["check", "--strict", u]) (ask ["sanitize", u])
            (ask ["sanitize", "--format=json", u]) (ask ["href", u]) := by
  intro u ask
  have hchecked : Shows u .check (ask ["check", u]) :=
    .check (eq_ok_of_toOption (by decide +kernel))
  have hstrict : Shows u .strictCheck (ask ["check", "--strict", u]) :=
    .strictCheck (eq_ok_of_toOption (by decide +kernel))
  have hasks : parse ["sanitize", u] = .ok (.sanitize [u] none) :=
    eq_ok_of_toOption (by decide +kernel)
  have hasks' : parse ["sanitize", "--format=json", u] = .ok (.sanitize [u] (some .json)) :=
    eq_ok_of_toOption (by decide +kernel)
  have hplain : Shows u .plain (ask ["sanitize", u]) :=
    .plain (Invocation.sanitizes_ofArguments hasks) rfl
  have hjson : Shows u .json (ask ["sanitize", "--format=json", u]) :=
    .json (Invocation.sanitizes_ofArguments hasks') rfl
  have hlinked : Shows u .href (ask ["href", u]) :=
    .href (eq_ok_of_toOption (by decide +kernel))
  exact ⟨hchecked, hstrict, hplain, hjson, hlinked,
    faces_agree hchecked hstrict hplain hjson hlinked⟩

end LinkGate.Command
