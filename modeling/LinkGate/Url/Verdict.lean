import LinkGate.Text.Ascii
import LinkGate.Text.Quoted
import LinkGate.Url.DataUrl
import LinkGate.Url.MediaType
import LinkGate.Url.Scheme

/-!
The verdict on a URL: safe to follow from a hyperlink, or refused for a reason. A URL is safe if
it has no scheme, if its scheme is one of `http`, `https`, `mailto` and `ftp`, or if it is a base64
data URL of an allowed media type. Letter case does not count.
-/

namespace LinkGate.Url

/-- Why a URL is refused. The texts are in lower case. -/
inductive Reason
  /-- The URL has a scheme that links may not have. -/
  | disallowedScheme (scheme : String)
  /-- The URL is a base64 data URL of a media type that links may not have. -/
  | disallowedMediaType (mediaType : String)
  /-- The URL has the scheme `data` and is no base64 data URL with a plain media type. -/
  | malformedDataUrl
  deriving DecidableEq, Repr

namespace Reason

/-- The reason in words. It is one line for every reason, because what came from the URL is
quoted. -/
def message : Reason → String
  | disallowedScheme scheme => "disallowed scheme " ++ Text.quoted scheme
  | disallowedMediaType mediaType =>
    "data URL media type " ++ Text.quoted mediaType ++ " is not allowed"
  | malformedDataUrl => "data URL is not a base64 payload with a plain media type"

end Reason

inductive Verdict
  | safe
  | refused (reason : Reason)
  deriving DecidableEq, Repr

namespace Verdict

def isSafe : Verdict → Bool
  | safe => true
  | refused _ => false

def reason? : Verdict → Option Reason
  | safe => none
  | refused reason => some reason

end Verdict

/-- The verdict on a data URL in lower case. -/
def judgeData (s : List Char) : Verdict :=
  match DataUrl.parse? s with
  | none => .refused .malformedDataUrl
  | some d =>
    if d.mediaType ∈ allowedMediaTypes then .safe
    else .refused (.disallowedMediaType (String.ofList d.mediaType))

/-- The verdict on a URL in lower case. -/
def judge (s : List Char) : Verdict :=
  match scheme? s with
  | none => .safe
  | some scheme =>
    if scheme ∈ allowedSchemes then .safe
    else if scheme = dataScheme then judgeData s
    else .refused (.disallowedScheme (String.ofList scheme))

/-- The verdict on a URL. -/
def classify (url : String) : Verdict :=
  judge (Text.lower url.toList)

/-- Whether a URL is safe to follow from a hyperlink. -/
def isSafe (url : String) : Bool :=
  (classify url).isSafe

end LinkGate.Url
