import LinkGate.Command.Arguments
import LinkGate.Command.Batch
import LinkGate.Command.Completion
import LinkGate.Command.Help
import LinkGate.Command.Run
import LinkGate.Command.Texts
import LinkGate.Command.Wording
import LinkGate.Config.Basic
import LinkGate.Config.Decoding
import LinkGate.Config.Failure
import LinkGate.Config.Loading
import LinkGate.Environment
import LinkGate.Files.Access
import LinkGate.Files.Path
import LinkGate.Files.Tree
import LinkGate.Html.Attribute
import LinkGate.Json.Members
import LinkGate.Json.Mismatch
import LinkGate.Json.Numeral
import LinkGate.Json.Parser
import LinkGate.Json.Printer
import LinkGate.Json.Value
import LinkGate.Log.Directive
import LinkGate.Log.Event
import LinkGate.Log.FieldTest
import LinkGate.Log.Filter
import LinkGate.Log.Rejection
import LinkGate.Log.Sink
import LinkGate.Main
import LinkGate.Number.Binary64
import LinkGate.Number.Digits
import LinkGate.Number.Shortest
import LinkGate.Pattern.Atom
import LinkGate.Pattern.CharacterClass
import LinkGate.Pattern.Depth
import LinkGate.Pattern.Mode
import LinkGate.Pattern.Reader
import LinkGate.Proofs.Command.Counts
import LinkGate.Proofs.Command.Events
import LinkGate.Proofs.Command.Faces
import LinkGate.Proofs.Command.Input
import LinkGate.Proofs.Command.Observer
import LinkGate.Proofs.Command.PlainOutput
import LinkGate.Proofs.Command.Records
import LinkGate.Proofs.Command.Run
import LinkGate.Proofs.Command.Runs
import LinkGate.Proofs.Command.Sink
import LinkGate.Proofs.Command.Stream
import LinkGate.Proofs.Config.Fallback
import LinkGate.Proofs.Config.Loading
import LinkGate.Proofs.Config.Shape
import LinkGate.Proofs.Files.Access
import LinkGate.Proofs.Files.Existing
import LinkGate.Proofs.Files.Growth
import LinkGate.Proofs.Files.Path
import LinkGate.Proofs.Files.Shape
import LinkGate.Proofs.Files.Tree
import LinkGate.Proofs.Html.AttributeReader
import LinkGate.Proofs.Html.Codec
import LinkGate.Proofs.Html.Escape
import LinkGate.Proofs.Json.ReadBack
import LinkGate.Proofs.Log.Rules
import LinkGate.Proofs.Log.Secrecy
import LinkGate.Proofs.Regex
import LinkGate.Proofs.Text.Framing
import LinkGate.Proofs.Text.LetterCase
import LinkGate.Proofs.Text.Lines
import LinkGate.Proofs.Text.Quoted
import LinkGate.Proofs.Text.Run
import LinkGate.Proofs.Text.Stream
import LinkGate.Proofs.Text.Utf8
import LinkGate.Proofs.Text.WellFormed
import LinkGate.Proofs.Url.Appending
import LinkGate.Proofs.Url.Browser
import LinkGate.Proofs.Url.DataUrl
import LinkGate.Proofs.Url.Decoding
import LinkGate.Proofs.Url.Escaped
import LinkGate.Proofs.Url.Making
import LinkGate.Proofs.Url.Message
import LinkGate.Proofs.Url.Patterns
import LinkGate.Proofs.Url.Sanitized
import LinkGate.Proofs.Url.Scheme
import LinkGate.Proofs.Url.Verdict
import LinkGate.Text.Alphanumeric
import LinkGate.Text.Ascii
import LinkGate.Text.Blank
import LinkGate.Text.Lines
import LinkGate.Text.Quoted
import LinkGate.Text.Ranges
import LinkGate.Text.Terminal
import LinkGate.Text.Unprintable
import LinkGate.Text.Utf8
import LinkGate.Toml.Document
import LinkGate.Toml.Keys
import LinkGate.Toml.Layout
import LinkGate.Toml.Moments
import LinkGate.Toml.Numbers
import LinkGate.Toml.Strings
import LinkGate.Toml.Tables
import LinkGate.Toml.Value
import LinkGate.Toml.Values
import LinkGate.Url.DataUrl
import LinkGate.Url.Decoding
import LinkGate.Url.MediaType
import LinkGate.Url.Sanitized
import LinkGate.Url.Scheme
import LinkGate.Url.Verdict
import LinkGate.Proofs.Files.Repeated
import LinkGate.Proofs.Config.Repeated
import LinkGate.Proofs.Config.Keys
import LinkGate.Proofs.Command.Passes
import LinkGate.Proofs.Command.Settings
import LinkGate.Proofs.Config.FormatValue
import LinkGate.Proofs.Text.ByteOrder
import LinkGate.Proofs.Url.Ordering
import LinkGate.Proofs.Json.Members
import LinkGate.Proofs.Text.Printable
import LinkGate.Proofs.Command.VerdictLine
import LinkGate.Proofs.Url.Reading
import LinkGate.Proofs.Regex.Matcher
import LinkGate.Proofs.Url.Unambiguous
