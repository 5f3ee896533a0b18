import LinkGate.Log.Event
import LinkGate.Text.Utf8
import LinkGate.Url.Sanitized

/-!
The events of sanitizing. Each refused URL makes one event, and a safe URL makes none.
-/

namespace LinkGate.Log

/-- The event of sanitizing a URL, if it is refused. -/
def rejection? (url : String) : Option Event :=
  (Url.classify url).reason?.map fun reason => .replaced reason (Text.toBytes url).length

/-- The events of sanitizing URLs one after another. -/
def rejections (urls : List String) : List Event :=
  urls.filterMap rejection?

end LinkGate.Log
