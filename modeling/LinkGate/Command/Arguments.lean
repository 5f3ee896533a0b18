import LinkGate.Config.Basic

/-!
The command line as a value. The arguments are read from left to right, options before, between or
after the other words; `--` ends the options. The first fault refuses the command line, unless help
is asked for before it.
-/

namespace LinkGate.Command

inductive Shell
  | bash
  | elvish
  | fish
  | powershell
  | zsh
  deriving DecidableEq, Repr

namespace Shell

def name : Shell → String
  | bash => "bash"
  | elvish => "elvish"
  | fish => "fish"
  | powershell => "powershell"
  | zsh => "zsh"

def all : List Shell := [bash, elvish, fish, powershell, zsh]

def ofName? (s : String) : Option Shell :=
  all.find? (·.name == s)

end Shell

inductive Verb
  | sanitize
  | check
  | href
  | completions
  | man
  | help
  deriving DecidableEq, Repr

namespace Verb

def name : Verb → String
  | sanitize => "sanitize"
  | check => "check"
  | href => "href"
  | completions => "completions"
  | man => "man"
  | help => "help"

def all : List Verb := [sanitize, check, href, completions, man, help]

def ofName? (s : String) : Option Verb :=
  all.find? (·.name == s)

end Verb

inductive Request
  /-- Print URLs sanitized: the given ones or, if there are none, the lines of the input. -/
  | sanitize (urls : List String) (format : Option OutputFormat)
  /-- Print the verdict on a URL; if `strict`, fail if it is refused. -/
  | check (url : String) (strict : Bool)
  /-- Print an attribute that links to a URL. -/
  | href (url : String)
  /-- Print a completion script. -/
  | completions (shell : Shell)
  /-- Print the manual page. -/
  | man
  /-- Print help on a verb or, if none is given, on the program. -/
  | help (verb : Option Verb)
  deriving DecidableEq, Repr

inductive UsageError
  | missingVerb
  | unknownVerb (word : String)
  | unknownOption (word : String)
  | repeatedOption (name : String)
  | missingValue (option : String)
  | unexpectedValue (option : String)
  | badValue (argument value : String)
  | unexpectedWord (word : String)
  | missingWord (argument : String)
  deriving DecidableEq, Repr

/-- What an argument looks like. -/
inductive Token
  /-- `--`, after which all arguments are words. -/
  | separator
  /-- An option by its name, with the value after an equals sign if there is one. -/
  | long (name : String) (value : Option String)
  /-- One letter or more after a single dash. -/
  | short (first : Char)
  /-- Anything else, a single dash among it. -/
  | word
  deriving DecidableEq, Repr

def Token.of (argument : String) : Token :=
  match argument.toList with
  | ['-', '-'] => .separator
  | '-' :: '-' :: s =>
    let name := String.ofList (s.takeWhile (· ≠ '='))
    match s.dropWhile (· ≠ '=') with
    | [] => .long name none
    | _ :: value => .long name (some (String.ofList value))
  | '-' :: c :: _ => .short c
  | _ => .word

/-- What the arguments of a verb may be. -/
structure Shape where
  /-- The options without a value. -/
  flags : List String
  /-- The options with a value, and which values they may have. -/
  valued : List (String × (String → Bool))
  /-- What the words are called in messages. -/
  wordName : String
  /-- How many words there may be at most, if there is a limit. -/
  maxWords : Option Nat
  /-- Which words there may be. -/
  acceptsWord : String → Bool

/-- The arguments of a verb as far as they have been read. -/
structure Collected where
  words : List String
  flags : List String
  values : List (String × String)
  deriving DecidableEq, Repr

namespace Collected

def empty : Collected := ⟨[], [], []⟩

def addWord (c : Collected) (shape : Shape) (word : String) : Except UsageError Collected :=
  match shape.maxWords with
  | some n =>
    if n ≤ c.words.length then .error (.unexpectedWord word)
    else if shape.acceptsWord word then .ok { c with words := c.words ++ [word] }
    else .error (.badValue shape.wordName word)
  | none =>
    if shape.acceptsWord word then .ok { c with words := c.words ++ [word] }
    else .error (.badValue shape.wordName word)

def addFlag (c : Collected) (name : String) : Except UsageError Collected :=
  if name ∈ c.flags then .error (.repeatedOption name)
  else .ok { c with flags := c.flags ++ [name] }

def addValue (c : Collected) (accepts : String → Bool) (name value : String) :
    Except UsageError Collected :=
  if (c.values.lookup name).isSome then .error (.repeatedOption name)
  else if accepts value then .ok { c with values := c.values ++ [(name, value)] }
  else .error (.badValue name value)

/-- Adds words only, which is what follows `--`. -/
def addWords (c : Collected) (shape : Shape) : List String → Except UsageError Collected
  | [] => .ok c
  | word :: rest =>
    match c.addWord shape word with
    | .error e => .error e
    | .ok c => addWords c shape rest

end Collected

/-- The name of the option that asks for help; its letter is the first of it. -/
def helpOption : String := "help"

/-- Reads the arguments of a verb. The result is `none` if help is asked for. -/
def collect (shape : Shape) (c : Collected) :
    List String → Except UsageError (Option Collected)
  | [] => .ok (some c)
  | argument :: rest =>
    match Token.of argument with
    | .separator => (c.addWords shape rest).map some
    | .short letter => if letter = 'h' then .ok none else .error (.unknownOption argument)
    | .word =>
      match c.addWord shape argument with
      | .error e => .error e
      | .ok c => collect shape c rest
    | .long name value =>
      if name = helpOption then
        match value with
        | none => .ok none
        | some _ => .error (.unexpectedValue name)
      else if name ∈ shape.flags then
        match value with
        | some _ => .error (.unexpectedValue name)
        | none =>
          match c.addFlag name with
          | .error e => .error e
          | .ok c => collect shape c rest
      else match shape.valued.lookup name with
        | none => .error (.unknownOption argument)
        | some accepts =>
          match value, rest with
          | some value, rest =>
            match c.addValue accepts name value with
            | .error e => .error e
            | .ok c => collect shape c rest
          | none, [] => .error (.missingValue name)
          | none, value :: rest =>
            if Token.of value ≠ .word then .error (.missingValue name)
            else match c.addValue accepts name value with
              | .error e => .error e
              | .ok c => collect shape c rest

namespace Verb

/-- What the arguments of a verb may be. The names after `help` are read apart from this. -/
def shape : Verb → Shape
  | sanitize => ⟨[], [("format", fun v => (OutputFormat.ofName? v).isSome)], "URLS", none,
      fun _ => true⟩
  | check => ⟨["strict"], [], "URL", some 1, fun _ => true⟩
  | href => ⟨[], [], "URL", some 1, fun _ => true⟩
  | completions => ⟨[], [], "SHELL", some 1, fun v => (Shell.ofName? v).isSome⟩
  | man => ⟨[], [], "", some 0, fun _ => true⟩
  | help => ⟨[], [], "COMMAND", none, fun _ => true⟩

def request (verb : Verb) (c : Collected) : Except UsageError Request :=
  match verb, c.words with
  | sanitize, urls => .ok (.sanitize urls ((c.values.lookup "format").bind OutputFormat.ofName?))
  | check, [url] => .ok (.check url ("strict" ∈ c.flags))
  | href, [url] => .ok (.href url)
  | completions, [shell] =>
    match Shell.ofName? shell with
    | some shell => .ok (.completions shell)
    | none => .error (.badValue verb.shape.wordName shell)
  | man, _ => .ok .man
  | _, _ => .error (.missingWord verb.shape.wordName)

end Verb

/-- Reads the names after `help`. A verb has no verbs below it. -/
def helpRequest : List String → Except UsageError Request
  | [] => .ok (.help none)
  | [name] =>
    match Verb.ofName? name with
    | some verb => .ok (.help (some verb))
    | none => .error (.unknownVerb name)
  | _ :: word :: _ => .error (.unknownVerb word)

def parse : List String → Except UsageError Request
  | [] => .error .missingVerb
  | argument :: rest =>
    match Token.of argument with
    | .separator => .error .missingVerb
    | .short letter => if letter = 'h' then .ok (.help none) else .error (.unknownOption argument)
    | .long name value =>
      if name = helpOption then
        match value with
        | none => .ok (.help none)
        | some _ => .error (.unexpectedValue name)
      else .error (.unknownOption argument)
    | .word =>
      match Verb.ofName? argument with
      | none => .error (.unknownVerb argument)
      | some .help => helpRequest rest
      | some verb =>
        match collect verb.shape .empty rest with
        | .error e => .error e
        | .ok none => .ok (.help (some verb))
        | .ok (some c) => verb.request c

/-- Whether a command line asks for the standard input to be read. -/
def readsInput (arguments : List String) : Bool :=
  match parse arguments with
  | .ok (.sanitize [] _) => true
  | _ => false

end LinkGate.Command
