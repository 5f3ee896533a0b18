import LinkGate.Command.Run
import LinkGate.Command.Wording
import LinkGate.Proofs.Text.Lines

/-!
# What a run shows

Whether there is a log file or not, a run shows what carrying out its request comes to; only the
error text may have the log in front (`errors_report`). So what a run answers depends on the effect
of its request (`output_of_asks`, `exitCode_of_asks`, `endsInLine_errors`) and, if the settings are
in order, the answer to a request to sanitize depends on the batch alone (`output_of_sanitizes`).

The texts that the program's libraries word are a parameter of all that is said of runs.
-/

namespace LinkGate.Command

open Files

/-- A result can be told from its value, which `decide` can compare. -/
theorem eq_ok_of_toOption {ε α : Type} {result : Except ε α} {a : α}
    (h : result.toOption = some a) : result = .ok a := by
  cases result with
  | error e => cases h
  | ok b =>
    cases h
    rfl

/-- What a run is given. Runs that are compared have their libraries' texts in common. -/
structure Invocation (texts : Texts) where
  env : Environment
  arguments : List String
  stream : List UInt8

namespace Invocation

variable {texts : Texts} {i : Invocation texts} {t : Tree} {request : Request}
  {urls : List String} {options : BatchOptions}

def report (i : Invocation texts) (t : Tree) : Report :=
  (run texts t i.env i.arguments i.stream).1

def treeAfter (i : Invocation texts) (t : Tree) : Tree :=
  (run texts t i.env i.arguments i.stream).2

/-- The tree in which the request of a run is carried out. The log is open in it. -/
def opened (i : Invocation texts) (t : Tree) : Tree :=
  (Log.openFile t i.env).1

def outcome (i : Invocation texts) (t : Tree) : Outcome :=
  perform texts (i.opened t) i.env i.arguments i.stream

/-- The request is what the arguments of a run ask for. -/
def Asks (i : Invocation texts) (request : Request) : Prop :=
  parse i.arguments = .ok request

def effect (i : Invocation texts) (t : Tree) (request : Request) : Effect :=
  execute texts (i.opened t) i.env i.stream request

/-- The settings are in order, so a run sanitizes these URLs or, if there are none, its input. -/
def Sanitizes (i : Invocation texts) (t : Tree) (urls : List String) (options : BatchOptions) :
    Prop :=
  ∃ format config, i.Asks (.sanitize urls format) ∧
    (Config.loadOrDefault (i.opened t) i.env).result = .ok config ∧
      options = batchOptions config format

/-! ## Runs of a user who has set nothing -/

/-- A run with these arguments, in which no variable is set and no input is given. -/
def ofArguments (arguments : List String) : Invocation .standIn :=
  ⟨⟨some "/home", none, none, none⟩, arguments, []⟩

/-- The settings of a user who has none are in order. -/
theorem sanitizes_ofArguments {arguments : List String} {format : Option OutputFormat}
    (h : parse arguments = .ok (.sanitize urls format)) :
    (ofArguments arguments).Sanitizes .empty urls (batchOptions .default format) := by
  refine ⟨format, .default, h, ?_, rfl⟩
  have hsettings : (Config.loadOrDefault (Log.openFile .empty (ofArguments []).env).1
      (ofArguments []).env).result = .ok .default := eq_ok_of_toOption (by decide +kernel)
  rw [opened]
  exact hsettings

/-! ## The report and the outcome -/

/-- The log has no part in the exit code. -/
theorem exitCode_report (i : Invocation texts) (t : Tree) :
    (i.report t).exitCode = (i.outcome t).exitCode := by
  unfold report outcome opened run
  cases Log.openFile t i.env with
  | mk made opened => cases opened <;> rfl

/-- Nor has it in the output. -/
theorem output_report (i : Invocation texts) (t : Tree) :
    (i.report t).output = (i.outcome t).output := by
  unfold report outcome opened run
  cases Log.openFile t i.env with
  | mk made opened => cases opened <;> rfl

/-- The log may be in front of the error text. -/
theorem errors_report (i : Invocation texts) (t : Tree) :
    ∃ events, (i.report t).errors = Log.linesOf events ++ (i.outcome t).error := by
  unfold report outcome opened run
  cases Log.openFile t i.env with
  | mk made opened =>
    cases opened with
    | none => exact ⟨_, rfl⟩
    | some file => exact ⟨[], (String.empty_append).symm⟩

/-! ## The report and the request -/

/-- A run with a request does what the request comes to, and a failure is what makes its exit code
and its error text. -/
theorem outcome_of_asks (h : i.Asks request) : i.outcome t =
    ⟨if (i.effect t request).failure.isSome then 1 else 0, (i.effect t request).output,
      (i.effect t request).failure.elim "" fun failure => errorLine (failure.message texts),
      (i.effect t request).events, (i.effect t request).tree⟩ := by
  have heffect : execute texts (i.opened t) i.env i.stream request = i.effect t request := rfl
  unfold outcome perform
  rw [h]
  simp only [heffect]
  cases (i.effect t request).failure <;> rfl

/-- A run writes what its request does. -/
theorem output_of_asks (h : i.Asks request) :
    (i.report t).output = (i.effect t request).output := by
  rw [output_report, outcome_of_asks h]

/-- It exits with code 1 exactly if the request fails. -/
theorem exitCode_of_asks (h : i.Asks request) :
    (i.report t).exitCode = if (i.effect t request).failure.isSome then 1 else 0 := by
  rw [exitCode_report, outcome_of_asks h]

/-- The error of a failure is the end of the error text. -/
theorem errors_of_asks {failure : Failure} (h : i.Asks request)
    (hfailure : (i.effect t request).failure = some failure) :
    ∃ events, (i.report t).errors = Log.linesOf events ++ errorLine (failure.message texts) := by
  obtain ⟨events, hevents⟩ := errors_report i t
  rw [outcome_of_asks h, hfailure] at hevents
  exact ⟨events, hevents⟩

/-- The failure is told in the last line of the error text, wherever the log goes. -/
theorem endsInLine_errors {failure : Failure} (h : i.Asks request)
    (hfailure : (i.effect t request).failure = some failure)
    (hmessage : '\n' ∉ (programName ++ " error: " ++ failure.message texts).toList) :
    Text.EndsInLine (i.report t).errors (programName ++ " error: " ++ failure.message texts) := by
  obtain ⟨events, herrors⟩ := errors_of_asks h hfailure
  have hlog : Log.linesOf events = Text.ofLines (events.map Log.Event.line) := by
    rw [Log.linesOf, Text.ofLines, List.map_map]
    rfl
  rw [herrors, errorLine, hlog]
  exact Text.endsInLine_ofLines_append _ hmessage

/-- With its settings in order a run does its batch, and only an unread line can make it fail. -/
theorem effect_of_sanitizes (h : i.Sanitizes t urls options) :
    ∃ request, i.Asks request ∧
      (i.effect t request).output = (Batch.run options urls i.stream).output ∧
        (i.effect t request).failure
          = (Batch.run options urls i.stream).unreadLine.map .inputLine := by
  obtain ⟨format, config, hasks, hconfig, rfl⟩ := h
  refine ⟨_, hasks, ?_⟩
  unfold effect execute sanitize
  simp only [hconfig, and_self]

/-- So it writes what the batch writes, even if a line stops it. -/
theorem output_of_sanitizes (h : i.Sanitizes t urls options) :
    (i.report t).output = (Batch.run options urls i.stream).output := by
  obtain ⟨request, hasks, houtput, -⟩ := effect_of_sanitizes h
  rw [output_of_asks hasks, houtput]

/-- It succeeds if all lines could be read. -/
theorem exitCode_of_sanitizes (h : i.Sanitizes t urls options) :
    (i.report t).exitCode
      = if (Batch.run options urls i.stream).unreadLine.isSome then 1 else 0 := by
  obtain ⟨request, hasks, -, hfailure⟩ := effect_of_sanitizes h
  rw [exitCode_of_asks hasks, hfailure, Option.isSome_map]

/-- A run that is asked to sanitize and succeeds does so. -/
theorem sanitizes_of_exitCode {format : Option OutputFormat} (h : i.Asks (.sanitize urls format))
    (hexit : (i.report t).exitCode = 0) :
    ∃ config, i.Sanitizes t urls (batchOptions config format) := by
  cases hresult : (Config.loadOrDefault (i.opened t) i.env).result with
  | ok config => exact ⟨config, format, config, h, hresult, rfl⟩
  | error reason =>
    have hfailure : (i.effect t (.sanitize urls format)).failure.isSome = true := by
      unfold effect execute sanitize
      simp only [hresult, Option.isSome_some]
    rw [exitCode_of_asks h, if_pos hfailure] at hexit
    cases hexit

/-- A run has one set of options. -/
theorem Sanitizes.unique {urls' : List String} {options' : BatchOptions}
    (h : i.Sanitizes t urls options) (h' : i.Sanitizes t urls' options') : options = options' := by
  obtain ⟨format, config, hasks, hconfig, rfl⟩ := h
  obtain ⟨format', config', hasks', hconfig', rfl⟩ := h'
  rw [Asks, hasks] at hasks'
  rw [hconfig] at hconfig'
  cases hasks'
  cases hconfig'
  rfl

end Invocation

end LinkGate.Command
