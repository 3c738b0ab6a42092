/-
  Failures: everything that can go wrong in a run, by cause. Each cause belongs to a kind, which gives the
  exit code and the heading of the message.
-/
import AskSheet.Storage
import AskSheet.Template

namespace AskSheet

open Text

/-- The kinds of failure: of the user, of the configuration, of a template, of reading and writing. -/
inductive FailureKind where
  | user
  | config
  | template
  | io
  deriving DecidableEq, Repr

namespace FailureKind

def exitCode : FailureKind → Nat
  | user => 1
  | config => 2
  | template => 3
  | io => 4

def heading : FailureKind → String
  | user => ""
  | config => "Config error: "
  | template => "Template error: "
  | io => "I/O error: "

end FailureKind

/-- What can go wrong. The `reason` of malformed input is the reader's account of it. -/
inductive Failure where
  | malformedField (arg : String)
  | malformedSubmission (reason : String)
  | nestedValue (key : String)
  | unreadableConfig (path : String) (e : ReadError)
  | malformedConfig (reason : String)
  | blankSubmitLabel
  | emptyTemplatePath (key : String)
  | template (e : TemplateError)
  | unreadableScript (path : String) (e : ReadError)
  | unreadableTemplate (path : String) (e : ReadError)
  | unreadableSubmission (e : ReadError)
  | unreadableAnswer (number : Nat) (e : ReadError)
  deriving DecidableEq, Repr

namespace Failure

def kind : Failure → FailureKind
  | malformedField _ | malformedSubmission _ | nestedValue _ => .user
  | unreadableConfig .. | malformedConfig _ | blankSubmitLabel | emptyTemplatePath _ => .config
  | template _ => .template
  | unreadableScript .. | unreadableTemplate .. | unreadableSubmission _ | unreadableAnswer .. => .io

/-- The message without its heading. -/
def account : Failure → String
  | malformedField arg => "invalid submission '" ++ arg ++ "': expected KEY=VALUE (e.g. 1=Bob)"
  | malformedSubmission reason => "submission must be a JSON object: " ++ reason
  | nestedValue key => "submission field '" ++ key ++ "' must be a string, number, boolean or null"
  | unreadableConfig path e => "failed to read config file '" ++ path ++ "': " ++ e.message
  | malformedConfig reason => "failed to parse config YAML: " ++ reason
  | blankSubmitLabel => "config validation failed: submit_label must not be empty"
  | emptyTemplatePath key => "config validation failed: " ++ key ++ " must not be an empty path"
  | template e => e.message
  | unreadableScript path e => "failed to read script '" ++ path ++ "': " ++ e.message
  | unreadableTemplate path e => "failed to read template '" ++ path ++ "': " ++ e.message
  | unreadableSubmission e => "failed to read submission from stdin: " ++ e.message
  | unreadableAnswer number e => "failed to read answer " ++ decimal number ++ ": " ++ e.message

def message (f : Failure) : String := f.kind.heading ++ f.account

def exitCode (f : Failure) : Nat := f.kind.exitCode

end Failure

end AskSheet
