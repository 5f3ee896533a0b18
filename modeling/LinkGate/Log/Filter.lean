import LinkGate.Log.Directive

/-!
Which events are shown. A filter is a list of directives parted by commas. Of the directives that
are about an event the most specific one decides, and of several as specific the last. An event that
no directive is about is not shown.
-/

namespace LinkGate.Log

abbrev Filter := List Directive

namespace Filter

/-- Reads a filter. Empty parts are passed over. -/
def parse? (text : String) : Option Filter :=
  ((text.toList.splitOn ',').filter (!·.isEmpty)).mapM Directive.parse?

def deciding? (filter : Filter) (e : Event) : Option Directive :=
  (filter.filter (·.holdsFor e)).foldl (fun best d =>
    match best with
    | none => some d
    | some b => if d.overrides b then some d else some b) none

def admits (filter : Filter) (e : Event) : Bool :=
  match filter.deciding? e with
  | none => false
  | some d => d.limit.admits e.level

/-- The filter of a user who has set none: everything that the program says of itself, and what
matters of the rest. -/
def default : Filter :=
  [.global (some .info), .ofTarget "safeurl" (some .debug)]

/-- The filter for a run, which is the default one if none is set or the set one cannot be read. -/
def ofSetting (setting : Option String) : Filter :=
  match setting with
  | none => default
  | some text => (parse? text).getD default

end Filter

/-- Events as lines of the log. -/
def linesOf (events : List Event) : String :=
  String.join (events.map fun e => e.line ++ "\n")

end LinkGate.Log
