import LinkGate.Files.Access

/-!
What a run takes from its environment, and where its files are. Settings and log have a base
directory each, which a variable names if its value is an absolute path and which else is below the
home directory. Without a home directory there is neither, whatever the variables say. The program
has a directory of its own below each base, and makes it when it looks up a file in it.
-/

namespace LinkGate

/-- The name of the program, of its directories, and of its log. -/
def programName : String := "safeurl"

/-- The environment of a run. -/
structure Environment where
  /-- The user's home directory, if the user has one. -/
  home : Option String
  /-- The base directory for settings, if one is named. -/
  configHome : Option String
  /-- The base directory for state that outlives a run, if one is named. -/
  stateHome : Option String
  /-- Which log events are shown, if it is said. -/
  logFilter : Option String
  deriving DecidableEq, Repr

namespace Environment

/-- The base directory that a variable names, if it does, and else the one below home. -/
def base? (env : Environment) (named : Option String) (belowHome : String) : Option Files.Path :=
  env.home.map fun home =>
    let default := Files.Path.join ⟨home⟩ belowHome
    match named with
    | none => default
    | some text => if Files.Path.isAbsolute ⟨text⟩ then ⟨text⟩ else default

def configBase? (env : Environment) : Option Files.Path :=
  env.base? env.configHome ".config"

def stateBase? (env : Environment) : Option Files.Path :=
  env.base? env.stateHome ".local/state"

end Environment

/-- The program's directory below a base directory. -/
def programDirectory (base : Files.Path) : Files.Path :=
  base.join programName

/-- The program's directory as messages show it, with a slash at its end. -/
def shownDirectory (base : Files.Path) : String :=
  (base.join (programName ++ "/")).text

/-- Why a file of the program cannot be looked up. -/
inductive Misplaced
  /-- There is no base directory, because the user has no home directory. -/
  | noHome
  /-- The program's directory below the base directory cannot be made. -/
  | unmade (base : Files.Path) (cause : Files.Failure)
  deriving DecidableEq, Repr

def Misplaced.message (name : String) : Misplaced → String
  | noHome => "resolve XDG base directories for " ++ programName ++ ": $HOME must be set"
  | unmade base cause =>
    "place " ++ name ++ " under " ++ shownDirectory base ++ ": " ++ cause.message

/-- Looks up a file of the program below a base directory. All directories on the way are made; the
file is not. -/
def placeFile (t : Files.Tree) (base? : Option Files.Path) (name : String) :
    Files.Tree × Except Misplaced Files.Path :=
  match base? with
  | none => (t, .error .noHome)
  | some base =>
    match t.createAll (programDirectory base) with
    | (t, .error cause) => (t, .error (.unmade base cause))
    | (t, .ok ()) => (t, .ok ((programDirectory base).join name))

end LinkGate
