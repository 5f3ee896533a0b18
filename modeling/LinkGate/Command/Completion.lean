import LinkGate.Command.Help

/-!
Completion scripts. The first word is completed to a verb, and a later one to an option of its verb
or to a shell.
-/

namespace LinkGate.Command

open Text (ofLines)

def verbNames : String := " ".intercalate (Verb.all.map Verb.name)

/-- What a word after the name of a verb may be completed to. -/
def Verb.candidates : Verb → List String
  | sanitize => ["--format", "--help"]
  | check => ["--strict", "--help"]
  | href | man => ["--help"]
  | completions => Shell.all.map Shell.name ++ ["--help"]
  | help => Verb.all.map Verb.name

/-- What a word after the name of a verb may be completed to, with spaces between. -/
def Verb.candidateWords (verb : Verb) : String := " ".intercalate verb.candidates

def bashScript : String :=
  ofLines (
    ["_" ++ programName ++ "() \x7b",
      "    local word=\"$\x7bCOMP_WORDS[COMP_CWORD]\x7d\"",
      "    if [ \"$COMP_CWORD\" -eq 1 ]; then",
      "        COMPREPLY=( $(compgen -W \"" ++ verbNames ++ "\" -- \"$word\") )",
      "        return",
      "    fi",
      "    case \"$\x7bCOMP_WORDS[1]\x7d\" in"] ++
    Verb.all.map (fun v => "        " ++ v.name ++ ") COMPREPLY=( $(compgen -W \"" ++
      v.candidateWords ++ "\" -- \"$word\") ) ;;") ++
    ["    esac", "\x7d",
      "complete -o default -F _" ++ programName ++ " " ++ programName])

def zshScript : String :=
  ofLines (
    ["#compdef " ++ programName,
      "if (( CURRENT == 2 )); then",
      "    compadd -- " ++ verbNames,
      "else",
      "    case \"$words[2]\" in"] ++
    Verb.all.map (fun v => "        " ++ v.name ++ ") compadd -- " ++ v.candidateWords ++ " ;;") ++
    ["    esac", "fi"])

def fishScript : String :=
  ofLines (
    Verb.all.map (fun v => "complete -c " ++ programName ++ " -n __fish_use_subcommand -f -a " ++
      v.name ++ " -d '" ++ v.summary ++ "'") ++
    Verb.all.map (fun v => "complete -c " ++ programName ++
      " -n '__fish_seen_subcommand_from " ++ v.name ++ "' -a '" ++ v.candidateWords ++ "'"))

def powershellScript : String :=
  ofLines (
    ["Register-ArgumentCompleter -Native -CommandName '" ++ programName ++ "' -ScriptBlock \x7b",
      "    param($word, $line, $cursor)",
      "    $elements = $line.CommandElements",
      "    $names = if ($elements.Count -le 1 -or $word -eq $elements[1].ToString()) \x7b",
      "        '" ++ verbNames ++ "'",
      "    \x7d else \x7b",
      "        switch ($elements[1].ToString()) \x7b"] ++
    Verb.all.map (fun v =>
      "            '" ++ v.name ++ "' \x7b '" ++ v.candidateWords ++ "' \x7d") ++
    ["        \x7d",
      "    \x7d",
      "    -split $names | Where-Object \x7b $_ -like \"$word*\" \x7d",
      "\x7d"])

def elvishScript : String :=
  ofLines (
    ["set edit:completion:arg-completer[" ++ programName ++ "] = \x7b|@words|",
      "    if (== (count $words) 2) \x7b",
      "        put " ++ verbNames] ++
    Verb.all.flatMap (fun v =>
      ["    \x7d elif (eq $words[1] " ++ v.name ++ ") \x7b", "        put " ++ v.candidateWords]) ++
    ["    \x7d", "\x7d"])

def completionScript : Shell → String
  | .bash => bashScript
  | .elvish => elvishScript
  | .fish => fishScript
  | .powershell => powershellScript
  | .zsh => zshScript

end LinkGate.Command
