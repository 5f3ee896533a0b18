import LinkGate.Log.Event
import LinkGate.Text.Utf8

/-!
Loading the settings. A user who has no settings file gets one with the defaults. One way to load
fails if that file cannot be created; the other goes on with the defaults and warns. A file that is
there but bad is an error for both.
-/

namespace LinkGate.Config

/-- What loading comes to: its result, the tree after it, and what was logged. -/
structure Loading (ε : Type) where
  result : Except ε Config
  tree : Files.Tree
  events : List Log.Event

def loadFrom (t : Files.Tree) (path : Files.Path) : Except Unusable Config :=
  match t.read path with
  | .error cause => .error (.unreadable path cause)
  | .ok content =>
    match Text.ofBytes? content with
    | none => .error (.notText path)
    | some text =>
      match Toml.parse? text with
      | none => .error (.notDocument path)
      | some entries =>
        match ofEntries entries with
        | .error reason => .error (.mismatch path reason)
        | .ok config => .ok config

/-- The text of the file at a path, from which it is told what is wrong with a document. -/
def textAt (t : Files.Tree) (path : Files.Path) : String :=
  ((t.read path).toOption.bind Text.ofBytes?).getD ""

/-- Makes the directory that a file is in, if its path names one. -/
def createParent (t : Files.Tree) (path : Files.Path) : Files.Tree × Except Unavailable Unit :=
  match path.parent? with
  | none => (t, .ok ())
  | some parent =>
    match t.createAll parent with
    | (t, .ok ()) => (t, .ok ())
    | (t, .error cause) => (t, .error (.createDirectory parent cause))

/-- Creates a file with the default settings. -/
def writeDefault (t : Files.Tree) (path : Files.Path) : Loading Unavailable :=
  match createParent t path with
  | (t, .error reason) => ⟨.error reason, t, []⟩
  | (t, .ok ()) =>
    match t.write path (Text.toBytes defaultText) with
    | .error cause => ⟨.error (.write path cause), t, []⟩
    | .ok t => ⟨.ok default, t, [.createdConfig path]⟩

/-- Loads the file at a path, or creates it if the path leads nowhere. -/
def loadOrInitAt (t : Files.Tree) (path : Files.Path) : Loading Failure :=
  if t.contains path then ⟨(loadFrom t path).mapError .unusable, t, []⟩
  else
    let made := writeDefault t path
    ⟨made.result.mapError .unavailable, made.tree, made.events⟩

/-- Loads the file at a path, or creates it if there is none. If it cannot be created the defaults
are used. -/
def loadOrDefaultAt (t : Files.Tree) (path : Files.Path) : Loading Unusable :=
  if t.isFile path then ⟨loadFrom t path, t, []⟩
  else
    let made := writeDefault t path
    match made.result with
    | .ok config => ⟨.ok config, made.tree, made.events⟩
    | .error reason => ⟨.ok default, made.tree, made.events ++ [.configUnavailable reason]⟩

def locate (t : Files.Tree) (env : Environment) : Files.Tree × Except Unavailable Files.Path :=
  match placeFile t env.configBase? fileName with
  | (t, .ok path) => (t, .ok path)
  | (t, .error reason) => (t, .error (.place reason))

/-- Loads the settings of the user, or creates the file. -/
def loadOrInit (t : Files.Tree) (env : Environment) : Loading Failure :=
  match locate t env with
  | (t, .ok path) => loadOrInitAt t path
  | (t, .error reason) => ⟨.error (.unavailable reason), t, []⟩

/-- Loads the settings of the user, or creates the file. If it cannot be placed or created the
defaults are used. -/
def loadOrDefault (t : Files.Tree) (env : Environment) : Loading Unusable :=
  match locate t env with
  | (t, .ok path) => loadOrDefaultAt t path
  | (t, .error reason) => ⟨.ok default, t, [.configUnavailable reason]⟩

end LinkGate.Config
