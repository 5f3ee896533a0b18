import LinkGate.Proofs.Text.Quoted
import LinkGate.Url.Verdict
import Mathlib.Data.List.Basic

/-!
# Reasons in words

What came from the URL is quoted in a message, so every message is printable (`printable_message`)
and on one line. The words before the quotes tell the kind of the reason, and from there the quoted
text reads back. So a reader gets every reason from its message (`ofMessage?_message`), and no two
reasons share one.
-/

namespace LinkGate.Url.Reason

variable {s after : List Char}

theorem toList_quoted (s : String) : (Text.quoted s).toList = Text.Quoted.encode s.toList := by
  rw [Text.quoted, String.toList_ofList]

@[simp] theorem message_disallowedScheme (scheme : String) :
    (disallowedScheme scheme).message = "disallowed scheme " ++ Text.quoted scheme := rfl

@[simp] theorem message_disallowedMediaType (mediaType : String) :
    (disallowedMediaType mediaType).message
      = "data URL media type " ++ Text.quoted mediaType ++ " is not allowed" := rfl

theorem toList_message_disallowedScheme (scheme : String) :
    (disallowedScheme scheme).message.toList
      = "disallowed scheme ".toList ++ Text.Quoted.encode scheme.toList := by
  rw [message_disallowedScheme, String.toList_append, toList_quoted]

theorem toList_message_disallowedMediaType (mediaType : String) :
    (disallowedMediaType mediaType).message.toList = "data URL media type ".toList
      ++ (Text.Quoted.encode mediaType.toList ++ " is not allowed".toList) := by
  rw [message_disallowedMediaType, String.toList_append, String.toList_append, toList_quoted,
    List.append_assoc]

/-! ## Messages are printable -/

/-- A reason is shown as it is: the text in it is quoted. -/
theorem printable_message (r : Reason) : Text.Printable r.message.toList := by
  cases r with
  | disallowedScheme scheme =>
    rw [toList_message_disallowedScheme, Text.printable_append]
    exact ⟨by decide, Text.Quoted.printable_encode _⟩
  | disallowedMediaType mediaType =>
    rw [toList_message_disallowedMediaType, Text.printable_append, Text.printable_append]
    exact ⟨by decide, Text.Quoted.printable_encode _, by decide⟩
  | malformedDataUrl => decide

/-- So it stands on one line. -/
theorem newline_not_mem_message (r : Reason) : '\n' ∉ r.message.toList :=
  r.printable_message.newline_not_mem

/-! ## Messages tell the reason -/

/-- Reads a reason from its quoted text, which some words have to follow. -/
def ofQuoted? (reason : String → Reason) (after s : List Char) : Option Reason :=
  match Text.Quoted.decode? s with
  | some (text, rest) => if rest = after then some (reason (String.ofList text)) else none
  | none => none

def ofMessage? (message : String) : Option Reason :=
  match "disallowed scheme ".toList.isPrefixOf? message.toList with
  | some s => ofQuoted? disallowedScheme [] s
  | none =>
    match "data URL media type ".toList.isPrefixOf? message.toList with
    | some s => ofQuoted? disallowedMediaType " is not allowed".toList s
    | none => if message = malformedDataUrl.message then some malformedDataUrl else none

/-- A reason with a quoted text in it is read back. -/
theorem ofQuoted?_encode_append (reason : String → Reason) (text : String) (after : List Char) :
    ofQuoted? reason after (Text.Quoted.encode text.toList ++ after) = some (reason text) := by
  rw [ofQuoted?, Text.Quoted.decode?_encode_append]
  show (if after = after then _ else none) = _
  rw [if_pos rfl, String.ofList_toList]

theorem isPrefixOf?_append (s r : List Char) : s.isPrefixOf? (s ++ r) = some r :=
  List.isPrefixOf?_eq_some_iff_append_eq.mpr rfl

/-- Every reason is read back from its message. -/
theorem ofMessage?_message (r : Reason) : ofMessage? r.message = some r := by
  unfold ofMessage?
  cases r with
  | disallowedScheme scheme =>
    rw [toList_message_disallowedScheme, isPrefixOf?_append]
    simp only
    have hquoted := ofQuoted?_encode_append disallowedScheme scheme []
    rwa [List.append_nil] at hquoted
  | disallowedMediaType mediaType =>
    rw [toList_message_disallowedMediaType, isPrefixOf?_append]
    -- the second letters of the two openings differ
    have hother (r : List Char) :
        "disallowed scheme ".toList.isPrefixOf? ("data URL media type ".toList ++ r) = none := rfl
    rw [hother]
    exact ofQuoted?_encode_append disallowedMediaType mediaType _
  | malformedDataUrl => decide

/-- No two reasons have one message. -/
theorem message_injective : Function.Injective message := by
  intro r r' h
  have hread := congrArg ofMessage? h
  rw [ofMessage?_message, ofMessage?_message] at hread
  exact Option.some.inj hread

end LinkGate.Url.Reason
