import AskSheet.Answers
import AskSheet.CommandLine
import AskSheet.Config
import AskSheet.Config.Discovery
import AskSheet.Failure
import AskSheet.Floating.Binary
import AskSheet.Floating.Shortest
import AskSheet.Interview
import AskSheet.Json.Basic
import AskSheet.Json.Number
import AskSheet.Json.Quoted
import AskSheet.Json.Reader
import AskSheet.Json.Writer
import AskSheet.Main
import AskSheet.Page.Form
import AskSheet.Prompt
import AskSheet.Proofs.Answers.Collect
import AskSheet.Proofs.Answers.Filling
import AskSheet.Proofs.Answers.Position
import AskSheet.Proofs.Call.Occurrence
import AskSheet.Proofs.Call.Spelling
import AskSheet.Proofs.Config.Discovery
import AskSheet.Proofs.Config.Valid
import AskSheet.Proofs.Config.Yaml
import AskSheet.Proofs.Failure
import AskSheet.Proofs.Interview.Lines
import AskSheet.Proofs.Interview.Reading
import AskSheet.Proofs.Json.Numeral
import AskSheet.Proofs.Json.Quoted
import AskSheet.Proofs.Json.Spelling
import AskSheet.Proofs.Json.Writing
import AskSheet.Proofs.Page.Answering
import AskSheet.Proofs.Page.Attribute
import AskSheet.Proofs.Page.BuiltIn
import AskSheet.Proofs.Page.Entity
import AskSheet.Proofs.Page.Escaped
import AskSheet.Proofs.Page.Failing
import AskSheet.Proofs.Page.Layout
import AskSheet.Proofs.Page.Markup
import AskSheet.Proofs.Page.Recovery
import AskSheet.Proofs.Prompt.Brackets
import AskSheet.Proofs.Prompt.Reading
import AskSheet.Proofs.Prompt.Writing
import AskSheet.Proofs.Run.Agreement
import AskSheet.Proofs.Run.Failing
import AskSheet.Proofs.Run.Replay
import AskSheet.Proofs.Run.Submission
import AskSheet.Proofs.Script.DocBlock
import AskSheet.Proofs.Script.FirstBlock
import AskSheet.Proofs.Script.Writing
import AskSheet.Proofs.Sheet.Json
import AskSheet.Proofs.Sheet.Listing
import AskSheet.Proofs.Sheet.Tidy
import AskSheet.Proofs.Storage.Rooted
import AskSheet.Proofs.Submission.Members
import AskSheet.Proofs.Template.Rendering
import AskSheet.Proofs.Template.Token
import AskSheet.Proofs.Template.Undefined
import AskSheet.Proofs.Template.Writing
import AskSheet.Proofs.Text.Encoding
import AskSheet.Proofs.Text.Lines
import AskSheet.Proofs.Text.Numeral
import AskSheet.Proofs.Text.Octets
import AskSheet.Proofs.Text.Trim
import AskSheet.Proofs.Yaml.Block
import AskSheet.Proofs.Yaml.Entry
import AskSheet.Proofs.Yaml.Mapping
import AskSheet.Proofs.Yaml.Plain
import AskSheet.Proofs.Yaml.Quoted
import AskSheet.Proofs.Yaml.Scalar
import AskSheet.Proofs.Yaml.Spacing
import AskSheet.Run
import AskSheet.Script.Call
import AskSheet.Script.DocBlock
import AskSheet.Sheet
import AskSheet.Sheet.Json
import AskSheet.Sheet.Print
import AskSheet.Storage
import AskSheet.Storage.Path
import AskSheet.Storage.Tree
import AskSheet.Submission
import AskSheet.Template
import AskSheet.Text.Basic
import AskSheet.Text.Numeral
import AskSheet.Text.Word
import AskSheet.Yaml.Block
import AskSheet.Yaml.Char
import AskSheet.Yaml.Cursor
import AskSheet.Yaml.Lexer
import AskSheet.Yaml.Node
import AskSheet.Yaml.Plain
import AskSheet.Yaml.Property
import AskSheet.Yaml.Quoted
import AskSheet.Yaml.Resolve
import AskSheet.Yaml.Token
import AskSheet.Yaml.Writer
