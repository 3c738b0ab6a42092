/-
  Runs: what a run is asked to do, and what it does. A script can be scanned, turned into a form or asked
  line by line, and a submission can be collected into the lines that a script reads. The configuration is
  found first, then the command runs with it. A run reads files and its input, and writes to the standard
  output; the prompts of an interview are shown elsewhere. What has been written stays when a later step
  fails.
-/
import AskSheet.Config.Discovery
import AskSheet.Interview
import AskSheet.Sheet.Print
import AskSheet.Submission

namespace AskSheet

open Text

/-! ## Requests -/

/-- Where the fields of a submission come from: one by one as `key=value`, or as a JSON object. -/
inductive SubmissionSource where
  | arguments (fields : List String)
  | json
  deriving DecidableEq, Repr, Inhabited

/-- What to do with which script. What is left out is taken from the configuration. -/
inductive Command where
  | scan (script : String) (format : Option OutputFormat)
  | form (script : String) (formTemplate fieldTemplate submitLabel : Option String)
  | collect (source : SubmissionSource) (script : Option String) (defaults : Bool)
  | ask (script : String) (defaults : Bool)
  deriving DecidableEq, Repr, Inhabited

/-- A command, and the configuration file if one is named. -/
structure Request where
  config : Option String
  command : Command
  deriving DecidableEq, Repr, Inhabited

/-- The file that the configuration of a run is looked for in. -/
def Request.configPath (r : Request) (directory : String) : String :=
  r.config.getD (Config.usualPath directory)

/-- The files that a command reads, its input apart. -/
def Command.paths (c : Config) : Command → List String
  | .scan script _ | .ask script _ => [script]
  | .form script page field _ =>
    script :: ((page <|> c.formTemplate).toList ++ (field <|> c.fieldTemplate).toList)
  | .collect _ script _ => script.toList

/-! ## Writing -/

/-- The files and the input of a run. -/
structure World where
  storage : Storage
  directory : String
  input : List UInt8

/-- What has been written: the output and the prompts that were shown. An interview that is `exhausted`
    would go on if there were more input. -/
structure Transcript where
  output : String := ""
  prompts : String := ""
  exhausted : Bool := false
  deriving DecidableEq, Repr, Inhabited

/-- What a run leaves behind. -/
structure Outcome extends Transcript where
  failure? : Option Failure := none
  deriving DecidableEq, Repr, Inhabited

/-- Steps that write and can fail. A failure leaves the transcript as it is by then. -/
abbrev Run := EStateM Failure Transcript

/-- A result that was worked out without writing is a step. -/
instance : MonadLift (Except Failure) Run := ⟨liftExcept⟩

namespace Run

/-- Writes a text to the standard output, which does not fail. -/
def write (text : String) : Run Unit :=
  modify fun t => { t with output := t.output ++ text }

/-- What is left behind when these are all steps. -/
def outcome (steps : Run Unit) : Outcome :=
  match steps {} with
  | .ok _ transcript => { toTranscript := transcript }
  | .error failure transcript => { toTranscript := transcript, failure? := some failure }

end Run

/-! ## Commands -/

/-- The sheet of the script in a file. -/
def Sheet.load (storage : Storage) (path : String) : Except Failure Sheet :=
  match storage.read path with
  | .ok source => .ok (Sheet.ofScript source)
  | .error e => .error (.unreadableScript path e)

/-- Asks the prompts of a sheet. They have been shown also if a line of the input is no text. -/
def Sheet.ask (s : Sheet) (input : List UInt8) : Run (List String) := do
  let record := s.interview input
  modify fun t => { t with prompts := t.prompts ++ record.shown, exhausted := record.exhausted }
  record.answers

namespace Answers

/-- One answer in a line. -/
def print (answers : List String) : Run Unit :=
  answers.forM fun answer => Run.write (answer ++ "\n")

/-- The answers, with placeholders for those that are empty if `defaults` is set. -/
def complete (answers : List String) (sheet : Sheet) (defaults : Bool) : List String :=
  if defaults then fillDefaults answers sheet.prompts else answers

end Answers

/-- The fields of a submission. -/
def SubmissionSource.fields (input : List UInt8) : SubmissionSource → Except Failure (List Field)
  | .arguments fields => Submission.ofArguments fields
  | .json =>
    match decodeText input with
    | .ok text => Submission.ofJson text
    | .error e => .error (.unreadableSubmission e)

section

variable (w : World) (c : Config)

/-- Prints the sheet of a script. -/
def runScan (script : String) (format : Option OutputFormat) : Run Unit := do
  let sheet ← Sheet.load w.storage script
  Run.write (sheet.print (format.getD c.outputFormat))

/-- Prints the form of a script. What the command says goes before what the configuration says. -/
def runForm (script : String) (page field label : Option String) : Run Unit := do
  let sheet ← Sheet.load w.storage script
  let template ← Page.FormTemplate.load w.storage (page <|> c.formTemplate) (field <|> c.fieldTemplate)
  let text ← (Page.render sheet template (label.getD c.submitLabel)).mapError Failure.template
  Run.write text

/-- Prints the answers of a submission, aligned with a script if there is one. -/
def runCollect (source : SubmissionSource) (script : Option String) (defaults : Bool) : Run Unit := do
  let answers := Answers.collect (← source.fields w.input)
  match script with
  | none => Answers.print answers
  | some path =>
    let sheet ← Sheet.load w.storage path
    let aligned := (Answers.align answers sheet.prompts.length).answers
    Answers.print (Answers.complete aligned sheet (defaults || c.placeholderAsDefault))

/-- Asks the prompts of a script and prints the answers. -/
def runAsk (script : String) (defaults : Bool) : Run Unit := do
  let sheet ← Sheet.load w.storage script
  let answers ← sheet.ask w.input
  Answers.print (Answers.complete answers sheet (defaults || c.placeholderAsDefault))

/-- The steps of a command. -/
def Command.steps : Command → Run Unit
  | .scan script format => runScan w c script format
  | .form script page field label => runForm w c script page field label
  | .collect source script defaults => runCollect w c source script defaults
  | .ask script defaults => runAsk w c script defaults

/-- Runs a command. -/
def Command.run (command : Command) : Outcome := (command.steps w c).outcome

/-- The steps of a request. -/
def Request.steps (r : Request) : Run Unit := do
  let c ← Config.discover w.storage r.config w.directory
  r.command.steps w c

/-- Runs a request. -/
def Request.run (r : Request) : Outcome := (r.steps w).outcome

end

end AskSheet
