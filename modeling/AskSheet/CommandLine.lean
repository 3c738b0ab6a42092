/-
  Command lines: a request as a list of arguments. The arguments before the name of the command are one
  level, those after it another. An option can hold its value (`--format=json`) or have it in the next
  argument; after `--` all arguments are operands. What an option or an operand holds is checked when
  the next one comes or the level ends, and the level of the command ends before the level around it.
-/
import AskSheet.Run

namespace AskSheet.CommandLine

/-- The names of the commands. -/
inductive Verb where
  | scan
  | form
  | collect
  | ask
  deriving DecidableEq, Repr, Inhabited

def Verb.name : Verb → String
  | scan => "scan"
  | form => "form"
  | collect => "collect"
  | ask => "ask"

def Verb.ofName? (s : String) : Option Verb := [scan, form, collect, ask].find? (·.name == s)

/-- The command that explains the others. -/
def helpName : String := "help"

/-- Why a command line is no request. -/
inductive UsageError where
  | helpShown
  | versionShown (command : Option Verb)
  | helpOnMissing
  | missingCommand
  | unknownCommand (arg : String)
  | unknownArgument (arg : String)
  | unexpectedValue (arg : String)
  | missingOperand
  | missingScript
  | invalidValue
  | conflict
  deriving DecidableEq, Repr, Inhabited

namespace UsageError

/-- Help and version are no failures. -/
def exitCode : UsageError → Nat
  | helpShown | versionShown _ => 0
  | _ => 2

def message : UsageError → String
  | helpShown | versionShown _ => ""
  | helpOnMissing | missingCommand => "a command is missing"
  | unknownCommand arg => "there is no command '" ++ arg ++ "'"
  | unknownArgument arg => "the argument '" ++ arg ++ "' is not expected here"
  | unexpectedValue arg => "the option in '" ++ arg ++ "' takes no value"
  | missingOperand => "the script is missing"
  | missingScript => "--defaults needs --script"
  | invalidValue => "a value is missing or not valid"
  | conflict => "an option is given twice, or --json together with fields"

/-- The name of the program and its version. -/
def versionText (command : Option Verb) : String :=
  let suffix := match command with
    | some verb => "-" ++ verb.name
    | none => ""
  "promptform" ++ suffix ++ " 0.1.0\n"

end UsageError

/-- The options that have a value. -/
inductive Setting where
  | config
  | format
  | template
  | fieldTemplate
  | submitLabel
  | script
  deriving DecidableEq, Repr, Inhabited

namespace Setting

def name : Setting → String
  | config => "config"
  | format => "format"
  | template => "template"
  | fieldTemplate => "field-template"
  | submitLabel => "submit-label"
  | script => "script"

/-- The options of a level; `none` is the level around the commands. -/
def ofLevel : Option Verb → List Setting
  | none | some .ask => [config]
  | some .scan => [config, format]
  | some .form => [config, template, fieldTemplate, submitLabel]
  | some .collect => [config, script]

/-- Paths must not be empty, a format is one of three words, and a label is any text. -/
def admits (s : Setting) (value : String) : Bool :=
  match s with
  | format => (OutputFormat.ofName? value).isSome
  | submitLabel => true
  | config | template | fieldTemplate | script => value != ""

end Setting

/-- The options that have no value. -/
inductive Switch where
  | help
  | version
  | json
  | defaults
  deriving DecidableEq, Repr, Inhabited

namespace Switch

def name : Switch → String
  | help => "help"
  | version => "version"
  | json => "json"
  | defaults => "defaults"

def ofLevel : Option Verb → List Switch
  | none | some .scan | some .form => [help, version]
  | some .collect => [help, version, json, defaults]
  | some .ask => [help, version, defaults]

end Switch

/-- An argument by its form. -/
inductive Argument where
  | terminator
  | setting (s : Setting) (value : Option String)
  | switch (s : Switch)
  | word (text : String)
  deriving DecidableEq, Repr, Inhabited

namespace Argument

/-- An option by its long name, with what follows the first `=`. -/
def ofLong (level : Option Verb) (arg : String) (cs : List Char) : Except UsageError Argument :=
  let name := String.ofList (cs.takeWhile (· ≠ '='))
  let value := match cs.dropWhile (· ≠ '=') with
    | [] => none
    | _ :: value => some (String.ofList value)
  match (Setting.ofLevel level).find? (·.name == name), (Switch.ofLevel level).find? (·.name == name) with
  | some s, _ => .ok (.setting s value)
  | none, some s => if value.isSome then .error (.unexpectedValue arg) else .ok (.switch s)
  | none, none => .error (.unknownArgument arg)

/-- An option by its letter; what follows the letter is the value, without a `=` at its start. -/
def ofLetter (level : Option Verb) (arg : String) (letter : Char) (cs : List Char) :
    Except UsageError Argument :=
  if letter = 'h' then .ok (.switch .help)
  else if letter = 'V' then .ok (.switch .version)
  else if letter = 'f' && level == some .scan then
    .ok (.setting .format (match cs with
      | [] => none
      | '=' :: value => some (String.ofList value)
      | value => some (String.ofList value)))
  else .error (.unknownArgument arg)

/-- The form of an argument. A lone `-` is a word. -/
def ofText (level : Option Verb) (arg : String) : Except UsageError Argument :=
  match arg.toList with
  | ['-', '-'] => .ok .terminator
  | '-' :: '-' :: cs => ofLong level arg cs
  | '-' :: c :: cs => ofLetter level arg c cs
  | _ => .ok (.word arg)

end Argument

/-- An option or an operand whose value is not yet checked; an option may still be without one. -/
inductive Pending where
  | setting (s : Setting) (value : Option String)
  | operand (text : String)
  deriving DecidableEq, Repr, Inhabited

/-- What the arguments of a level have said so far. -/
structure Level where
  settings : List (Setting × String) := []
  switches : List Switch := []
  operands : List String := []
  pending : Option Pending := none
  ended : Bool := false
  deriving DecidableEq, Repr, Inhabited

namespace Level

/-- Waits for the value of an option. -/
def awaits? (l : Level) : Option Setting :=
  match l.ended, l.pending with
  | false, some (.setting s none) => some s
  | _, _ => none

/-- Has the operand of a command that takes one. -/
def hasOperand (l : Level) : Bool :=
  match l.pending with
  | some (.operand _) => true
  | _ => l.operands != []

/-- The level with the value of an option, which must not be there yet. -/
def addSetting (l : Level) (s : Setting) : Option String → Except UsageError Level
  | none => .error .invalidValue
  | some value =>
    if (l.settings.lookup s).isSome then .error .conflict
    else if s.admits value then .ok { l with settings := (s, value) :: l.settings }
    else .error .invalidValue

/-- The level with what was pending. -/
def settle (l : Level) : Except UsageError Level :=
  let rest := { l with pending := none }
  match l.pending with
  | none => .ok l
  | some (.setting s value) => rest.addSetting s value
  | some (.operand text) =>
    if text = "" then .error .invalidValue else .ok { rest with operands := rest.operands ++ [text] }

/-- The level with one more switch. Help and version end the reading. -/
def addSwitch (verb : Option Verb) (l : Level) (s : Switch) : Except UsageError Level :=
  match s with
  | .help => .error .helpShown
  | .version => .error (.versionShown verb)
  | .json | .defaults =>
    if l.switches.contains s then .error .conflict else .ok { l with switches := s :: l.switches }

/-- The level with one more operand. All commands but `collect` take exactly one. -/
def addOperand (verb : Verb) (l : Level) (text : String) : Except UsageError Level :=
  if verb = .collect then do
    let l ← l.settle
    return { l with operands := l.operands ++ [text] }
  else if l.hasOperand then .error (.unknownArgument text)
  else do
    let l ← l.settle
    return { l with pending := some (.operand text) }

/-- The level after an option or the end of the options. -/
def acceptOption (verb : Option Verb) (l : Level) : Argument → Except UsageError Level
  | .terminator => .ok { l with ended := true }
  | .setting s (some value) => do (← l.settle).addSetting s (some value)
  | .setting s none => do return { ← l.settle with pending := some (.setting s none) }
  | .switch s => do (← l.settle).addSwitch verb s
  | .word _ => .ok l

/-- The level of a command after one more argument. -/
def accept (verb : Verb) (l : Level) (arg : String) : Except UsageError Level := do
  match ← (if l.ended then .ok (.word arg) else Argument.ofText (some verb) arg) with
  | .word text =>
    match l.awaits? with
    | some s => return { l with pending := some (.setting s (some text)) }
    | none => l.addOperand verb text
  | option => l.acceptOption (some verb) option

/-- The value of an option. -/
def setting? (l : Level) (s : Setting) : Option String := l.settings.lookup s

/-- The operand of a command that takes one. -/
def script (l : Level) : Except UsageError String :=
  match l.operands with
  | text :: _ => .ok text
  | [] => .error .missingOperand

/-- The command that a finished level gives. -/
def command (l : Level) : Verb → Except UsageError Command
  | .scan => do return .scan (← l.script) ((l.setting? .format).bind OutputFormat.ofName?)
  | .form => do
    return .form (← l.script) (l.setting? .template) (l.setting? .fieldTemplate) (l.setting? .submitLabel)
  | .ask => do return .ask (← l.script) (l.switches.contains .defaults)
  | .collect =>
    let json := l.switches.contains .json
    let defaults := l.switches.contains .defaults
    if json && l.operands != [] then .error .conflict
    else if defaults && (l.setting? .script).isNone then .error .missingScript
    else .ok (.collect (if json then .json else .arguments l.operands) (l.setting? .script) defaults)

end Level

/-- The command that arguments after its name describe, and the configuration file that they name. -/
def readCommand (verb : Verb) (args : List String) : Except UsageError Request := do
  let l ← (← args.foldlM (Level.accept verb) {}).settle
  return { config := l.setting? .config, command := ← l.command verb }

/-- What comes of asking for help on commands: only one of them is explained at a time. -/
def explain : List String → UsageError
  | [] => .helpShown
  | [name] => if name = helpName || (Verb.ofName? name).isSome then .helpShown else .unknownCommand name
  | first :: second :: _ =>
    .unknownCommand (if first = helpName || (Verb.ofName? first).isSome then second else first)

/-- Reads the arguments around and before the name of the command. -/
def readFrom (l : Level) : List String → Except UsageError Request
  | [] => do
    let l ← l.settle
    throw (if l.settings = [] then .helpOnMissing else .missingCommand)
  | arg :: args => do
    match ← (if l.ended then .ok (.word arg) else Argument.ofText none arg) with
    | .word text =>
      match l.awaits? with
      | some s => readFrom { l with pending := some (.setting s (some text)) } args
      | none =>
        if l.ended then
          throw (if text = helpName || (Verb.ofName? text).isSome then .unknownArgument text
            else .unknownCommand text)
        else if text = helpName then throw (explain args)
        else
          match Verb.ofName? text with
          | none => throw (.unknownCommand text)
          | some verb =>
            let request ← readCommand verb args
            let l ← l.settle
            return { request with config := request.config <|> l.setting? .config }
    | option => readFrom (← l.acceptOption none option) args

/-- What can be asked for. -/
def usage : String := String.join
  ["Usage: promptform [--config PATH] COMMAND\n\n",
    "  scan SCRIPT [-f json|yaml|text]    print the prompts of a script\n",
    "  form SCRIPT [--template PATH] [--field-template PATH] [--submit-label TEXT]\n",
    "                                     print them as a form\n",
    "  collect [KEY=VALUE...] [--json] [--script PATH [--defaults]]\n",
    "                                     print the answers of a submission\n",
    "  ask SCRIPT [--defaults]            ask the prompts and print the answers\n"]

/-- The request that a command line makes. -/
def read (args : List String) : Except UsageError Request := readFrom {} args

end AskSheet.CommandLine
