import LinkGate.Config.Basic
import LinkGate.Number.Shortest
import LinkGate.Text.Quoted
import LinkGate.Toml.Document

/-!
Settings read from a TOML document. Three keys are known, each with its type; all other keys are
passed over, and a missing key leaves its default. The keys are taken in the order of the document,
and the first bad one is reported.
-/

namespace LinkGate.Config

/-- Why the value of a known key is refused. -/
inductive Mismatch
  /-- A truth value is wanted, and this is another value. -/
  | notBoolean (found : Toml.Value)
  /-- A format is wanted, and this is neither a string nor a table. -/
  | notVariant
  /-- A format is wanted, and this is a table without a key. -/
  | noKey
  /-- A format is wanted, and this is a table with more than one key. -/
  | manyKeys
  /-- There is no format of this name. -/
  | unknownFormat (name : String)
  /-- The format is the key of a table, and its value is neither a table nor an array. -/
  | notTable (found : Toml.Value)
  /-- The format is the key of a table, and its value is an array that is not empty. -/
  | arrayNotEmpty
  /-- The format is the key of a table, and its value is a table that is not empty. -/
  | tableNotEmpty

/-- Doubles are written in full, and of two shortest decimals equally near the greater is taken. -/
def floatStyle : Number.Style := ⟨.greater, none⟩

/-- A value as messages about types show it. A date or a time counts as a map of its parts. -/
def describe : Toml.Value → String
  | .string s => "string " ++ Text.quoted s
  | .integer n => "integer `" ++ toString n ++ "`"
  | .float x => "floating point `" ++ x.display floatStyle ++ "`"
  | .boolean b => "boolean `" ++ showBool b ++ "`"
  | .array _ | .tables _ => "sequence"
  | .moment _ | .table .. => "map"

def typeName : Toml.Value → String
  | .string _ => "string"
  | .integer _ => "integer"
  | .float _ => "float"
  | .boolean _ => "boolean"
  | .moment _ => "datetime"
  | .array _ => "array"
  | .tables _ => "array of tables"
  | .table .. => "table"

def Mismatch.message : Mismatch → String
  | notBoolean v => "invalid type: " ++ describe v ++ ", expected a boolean"
  | notVariant => "wanted string or table"
  | noKey => "wanted exactly 1 element, found 0 elements"
  | manyKeys => "wanted exactly 1 element, more than 1 element"
  | unknownFormat name => "unknown variant `" ++ name ++ "`, expected `plain` or `json`"
  | notTable v => "expected table, found " ++ typeName v
  | arrayNotEmpty => "expected empty array"
  | tableNotEmpty => "expected empty table"

def booleanOf : Toml.Value → Except Mismatch Bool
  | .boolean b => .ok b
  | v => .error (.notBoolean v)

def formatOfName (name : String) : Except Mismatch OutputFormat :=
  match OutputFormat.ofName? name with
  | some f => .ok f
  | none => .error (.unknownFormat name)

/-- Checks the value of the one key of a table that names a format, which has to be empty. -/
def checkEmpty : Toml.Value → Except Mismatch Unit
  | .array [] | .tables [] | .table _ [] => .ok ()
  | .tables _ => .error .arrayNotEmpty
  | .array _ | .table .. => .error .tableNotEmpty
  | v => .error (.notTable v)

/-- Reads a format: its name as a string, or a table with its name as the one key and an empty
value. -/
def formatOf : Toml.Value → Except Mismatch OutputFormat
  | .string name => formatOfName name
  | .table _ [] => .error .noKey
  | .table _ [(name, value)] =>
    match formatOfName name with
    | .error m => .error m
    | .ok f => (checkEmpty value).map fun _ => f
  | .table .. => .error .manyKeys
  | _ => .error .notVariant

/-- The settings after one more entry of the document. -/
def addEntry (config : Config) (key : String) (value : Toml.Value) : Except Mismatch Config :=
  if key = "output" then (formatOf value).map fun f => { config with output := f }
  else if key = "log_rejections" then
    (booleanOf value).map fun b => { config with logRejections := b }
  else if key = "skip_blank_lines" then
    (booleanOf value).map fun b => { config with skipBlankLines := b }
  else .ok config

def addEntries (config : Config) : Toml.Entries → Except Mismatch Config
  | [] => .ok config
  | (key, value) :: rest =>
    match addEntry config key value with
    | .error m => .error m
    | .ok config => addEntries config rest

/-- The settings that the entries of a document make. -/
def ofEntries (entries : Toml.Entries) : Except Mismatch Config :=
  addEntries default entries

end LinkGate.Config
