/-
  Configuration: the settings of a run. A configuration that is in use has a submit label that is not blank
  and no empty template path (`Config.validate`), and its relative template paths are seen from the
  directory of the file that it was read from.
-/
import AskSheet.Failure
import AskSheet.Page.Form
import AskSheet.Storage.Path

namespace AskSheet

/-- The forms in which a sheet can be printed. -/
inductive OutputFormat where
  | json
  | yaml
  | text
  deriving DecidableEq, Repr, Inhabited

namespace OutputFormat

def name : OutputFormat → String
  | json => "json"
  | yaml => "yaml"
  | text => "text"

/-- The format with this name. -/
def ofName? (s : String) : Option OutputFormat := [json, yaml, text].find? (·.name == s)

end OutputFormat

/-- The settings of a run. -/
structure Config where
  outputFormat : OutputFormat := .json
  submitLabel : String := Page.submitLabel
  formTemplate : Option String := none
  fieldTemplate : Option String := none
  placeholderAsDefault : Bool := false
  deriving DecidableEq, Repr, Inhabited

namespace Config

/-- The name of the file that is looked up in the current directory. -/
def fileName : String := "promptform.yaml"

/-- Refuses a blank submit label and empty template paths. -/
def validate (c : Config) : Except Failure Unit :=
  if Text.allBlank c.submitLabel then .error .blankSubmitLabel
  else if c.formTemplate = some "" then .error (.emptyTemplatePath "form_template")
  else if c.fieldTemplate = some "" then .error (.emptyTemplatePath "field_template")
  else .ok ()

/-- The configuration with its template paths seen from the directory `base`. -/
def resolve (base : String) (c : Config) : Config :=
  { c with formTemplate := c.formTemplate.map (Path.join base)
           fieldTemplate := c.fieldTemplate.map (Path.join base) }

end Config

end AskSheet
