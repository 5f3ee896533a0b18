import LinkGate.Proofs.Command.Events
import LinkGate.Proofs.Command.Faces

/-!
# Reasons on one line

A scheme and a media type are the URL's own text and may hold anything that lower case leaves as it
is, line feeds and quotes among it. Where the program shows them they are quoted, so a reason never
leaves its line: neither in the verdict that a check shows (`Invocation.output_check`) nor in the
event that tells of the refusal (`printable_line_replaced`). And it is never mistaken for another,
because it can be read back from its words.
-/

namespace LinkGate

open Text Files

namespace Log.Event

theorem printable_shownValue {name value : String} (hname : Printable name.toList)
    (hvalue : Printable value.toList) : Printable (shownValue (name, value)).toList := by
  rw [shownValue, String.toList_append, String.toList_append, String.toList_append,
    printable_append, printable_append, printable_append]
  exact ⟨⟨⟨by decide, hname⟩, by decide⟩, hvalue⟩

/-- The log line of a replacement can be shown as it is. -/
theorem printable_line_replaced (r : Url.Reason) (length : Nat) :
    Printable (replaced r length).line.toList := by
  -- what stands before the values is the same for all events of this kind
  have hopening : Printable ((replaced r length).level.name ++ " " ++ (replaced r length).target
      ++ ": " ++ (replaced r length).shownMessage).toList := by
    show Printable ("DEBUG" ++ " " ++ "safeurl_core::url_model::sanitized" ++ ": "
      ++ String.ofList (Terminal.encode "replacing unsafe url".toList)).toList
    decide
  have hvalues : ∀ v ∈ (replaced r length).values, Printable (shownValue v).toList := by
    rw [values, List.forall_mem_cons, List.forall_mem_singleton]
    constructor
    · exact printable_shownValue (by decide) r.printable_message
    · exact printable_shownValue (by decide) (printable_toString length)
  rw [line, String.toList_append, printable_append, String.toList_join]
  refine ⟨hopening, fun c hc => ?_⟩
  obtain ⟨shown, hshown, hc⟩ := List.mem_flatMap.mp hc
  obtain ⟨v, hv, rfl⟩ := List.mem_map.mp hshown
  exact hvalues v hv c hc

end Log.Event

namespace Command

variable {texts : Texts} {i i' : Invocation texts} {t t' : Tree} {url url' : String}
  {strict strict' : Bool} {r r' : Url.Reason}

/-- A run that checks writes the verdict as a line. -/
theorem Invocation.output_check (h : i.Asks (.check url strict)) :
    (i.report t).output = verdictLine (Url.classify url) ++ "\n" := by
  rw [output_of_asks h, effect, execute, Command.output_check]

/-- How a reason is shown, and that it can be read. -/
structure OneLine (r : Url.Reason) : Prop where
  -- no control and no delete, nor anything else that is not shown as it is
  printable : ∀ c ∈ r.message.toList,
    0x20 ≤ c.toNat ∧ c.toNat ≠ 0x7F ∧ isUnprintable c = false
  read : Url.Reason.ofMessage? r.message = some r
  event_printable : ∀ length, Printable (Log.Event.replaced r length).line.toList

/-- What tells of a URL that is refused for this reason. -/
structure ShownAs (url : String) (r : Url.Reason) : Prop where
  verdict : ∀ {texts : Texts} {i : Invocation texts} {t : Tree} {strict : Bool},
    i.Asks (.check url strict) → (i.report t).output = "unsafe: " ++ r.message ++ "\n"
  event : ∃ e, Log.rejection? url = some e ∧ ("reason", r.message) ∈ e.values ∧
    Printable e.line.toList

/-- All of this holds of every reason. -/
theorem oneLine (r : Url.Reason) : OneLine r where
  printable := by
    intro c hc
    have hprintable := r.printable_message c hc
    obtain ⟨hleast, hdelete⟩ := of_not_isUnprintable hprintable
    exact ⟨hleast, hdelete, hprintable⟩
  read := r.ofMessage?_message
  event_printable := Log.Event.printable_line_replaced r

theorem shownAs (h : Url.classify url = .refused r) : ShownAs url r where
  verdict := by
    intro texts i t strict hasks
    rw [Invocation.output_check hasks, h]
    rfl
  event := by
    refine ⟨_, Log.rejection?_of_refused h, List.mem_cons_self, ?_⟩
    exact Log.Event.printable_line_replaced r _

/-- A check writes one line for every URL, safe or not. -/
theorem hasLines_check (h : i.Asks (.check url strict)) :
    HasLines (i.report t).output [verdictLine (Url.classify url)] := by
  rw [Invocation.output_check h]
  exact hasLines_singleton (newline_not_mem_verdictLine _)

/-- Two checks write the same exactly if they come to the same verdict. -/
theorem output_eq_iff (h : i.Asks (.check url strict)) (h' : i'.Asks (.check url' strict')) :
    (i.report t).output = (i'.report t').output ↔ Url.classify url = Url.classify url' := by
  rw [Invocation.output_check h, Invocation.output_check h']
  exact ⟨fun heq => verdictLine_injective (append_newline_inj heq), fun heq => by rw [heq]⟩

/-- **A reason is one line, and tells itself.** The words of every reason are printable, and the
reason is read back from them. A check shows one printable line for every URL, and the event of a
refusal is printable too. Whatever else is asked of two runs, their checks of two refused URLs show
the same text exactly if the reasons are the same. -/
theorem reason_on_one_line :
    (∀ r : Url.Reason, OneLine r) ∧ Function.Injective Url.Reason.message ∧
      (∀ {url : String} {r : Url.Reason}, Url.classify url = .refused r → ShownAs url r) ∧
      (∀ {texts : Texts} {i : Invocation texts} {t : Tree} {url : String} {strict : Bool},
        i.Asks (.check url strict) → HasLines (i.report t).output [verdictLine (Url.classify url)] ∧
          Printable (verdictLine (Url.classify url)).toList) ∧
      ∀ {texts : Texts} {i i' : Invocation texts} {t t' : Tree} {url url' : String}
        {strict strict' : Bool} {r r' : Url.Reason},
        i.Asks (.check url strict) → i'.Asks (.check url' strict') →
          Url.classify url = .refused r → Url.classify url' = .refused r' →
          ((i.report t).output = (i'.report t').output ↔ r = r') := by
  refine ⟨oneLine, Url.Reason.message_injective, shownAs, fun h => ?_, ?_⟩
  · exact ⟨hasLines_check h, printable_verdictLine _⟩
  · intro texts i i' t t' url url' strict strict' r r' h h' hr hr'
    rw [output_eq_iff h h', hr, hr', Url.Verdict.refused.injEq]

/-- A scheme with a line feed is shown otherwise than a scheme with the two characters of its
escape. -/
theorem reason_on_one_line_newline :
    let i := Invocation.ofArguments ["check", "--", "java\nscript:x"]
    let i' := Invocation.ofArguments ["check", "--strict", "--", "java\\nscript:x"]
    (i.report .empty).output = "unsafe: disallowed scheme \"java\\nscript\"\n" ∧
      (i'.report .empty).output = "unsafe: disallowed scheme \"java\\\\nscript\"\n" ∧
        (i.report .empty).output ≠ (i'.report .empty).output := by
  intro i i'
  have hasks : i.Asks (.check "java\nscript:x" false) := by rfl
  have hasks' : i'.Asks (.check "java\\nscript:x" true) := by cbv
  have hr : Url.classify "java\nscript:x" = .refused (.disallowedScheme "java\nscript") := by
    decide +kernel
  have hr' : Url.classify "java\\nscript:x" = .refused (.disallowedScheme "java\\nscript") := by
    decide +kernel
  obtain ⟨-, -, hshown, -, hsame⟩ := reason_on_one_line
  refine ⟨(hshown hr).verdict hasks, (hshown hr').verdict hasks', fun h => ?_⟩
  have hreasons := (hsame hasks hasks' hr hr').mp h
  revert hreasons
  decide

end Command

end LinkGate
