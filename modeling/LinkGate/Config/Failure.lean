import LinkGate.Config.Decoding
import LinkGate.Environment

/-!
Why the settings cannot be loaded. A settings file that is there and is bad is told apart from one
that cannot be placed or created, because in the second case the program can go on with the
defaults.
-/

namespace LinkGate.Config

/-- Why a settings file that does not exist cannot be created. -/
inductive Unavailable
  /-- The program's directory for settings is not known or cannot be made. -/
  | place (reason : Misplaced)
  /-- The directory that holds the file cannot be made. -/
  | createDirectory (path : Files.Path) (cause : Files.Failure)
  /-- The file cannot be written. -/
  | write (path : Files.Path) (cause : Files.Failure)
  deriving DecidableEq, Repr

def fileName : String := "config.toml"

def Unavailable.message : Unavailable → String
  | place reason => reason.message fileName
  | createDirectory path cause => "create config dir " ++ path.text ++ ": " ++ cause.message
  | write path cause => "write " ++ path.text ++ ": " ++ cause.message

/-- Why the settings file at a path cannot be used. -/
inductive Unusable
  /-- The file cannot be read. -/
  | unreadable (path : Files.Path) (cause : Files.Failure)
  /-- The content is not text. -/
  | notText (path : Files.Path)
  /-- The text is not a TOML document. -/
  | notDocument (path : Files.Path)
  /-- The value of a known key is refused. -/
  | mismatch (path : Files.Path) (reason : Mismatch)

namespace Unusable

def path : Unusable → Files.Path
  | unreadable path _ | notText path | notDocument path | mismatch path _ => path

/-- What was tried, and on which file. -/
def context : Unusable → String
  | unreadable path _ | notText path => "read " ++ path.text
  | notDocument path | mismatch path _ => "parse " ++ path.text

/-- The reason in words. What is wrong with a document is told by the library that reads TOML, with
the line and the column, a piece of the text and the reason. Those words are not the program's own:
they are the parameter `report`. -/
def message (report : String) : Unusable → String
  | e@(unreadable _ cause) => e.context ++ ": " ++ cause.message
  | e@(notText _) => e.context ++ ": stream did not contain valid UTF-8"
  | e@(notDocument _) | e@(mismatch _ _) => e.context ++ ": " ++ report

end Unusable

/-- Why settings cannot be loaded or created. -/
inductive Failure
  | unavailable (reason : Unavailable)
  | unusable (reason : Unusable)

/-- The reason in words, where `report` is what the TOML reader says of a document. -/
def Failure.message (report : String) : Failure → String
  | unavailable reason => reason.message
  | unusable reason => reason.message report

end LinkGate.Config
