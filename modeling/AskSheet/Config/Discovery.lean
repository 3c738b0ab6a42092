/-
  Configuration files. A configuration is written as a YAML document; when one is read, every key may be
  left out and unknown keys are ignored, whatever their value, but a known key must not come twice, and
  its value has to be of the right kind. The configuration of a run is in the file that is named, or in
  the file with the usual name in the current directory if there is one; else it is the built-in one.
-/
import AskSheet.Config
import AskSheet.Yaml.Node

namespace AskSheet.Config

open Yaml

/-! ## Documents -/

/-- The configuration as a mapping, one key in a line; template paths that are not set are left out. -/
def toYaml (c : Config) : String :=
  entry 0 "output_format" c.outputFormat.name ++
    entry 0 "submit_label" c.submitLabel ++
    path "form_template" c.formTemplate ++
    path "field_template" c.fieldTemplate ++
    "placeholder_as_default: " ++ (if c.placeholderAsDefault then "true\n" else "false\n")
where
  path (key : String) : Option String → String
    | some p => entry 0 key p
    | none => ""

/-- The text of a scalar, whatever its tag and style. -/
def text? : Node → Option String
  | .scalar _ _ text => some text
  | _ => none

/-- A scalar that is null when nothing says what it is. -/
def isBareNull (style : Style) (text : String) : Bool :=
  style == .plain && (text == "" || isNullWord text)

/-- A path, or none for null. A tag other than the one for null makes a text of any scalar. -/
def path? : Node → Option (Option String)
  | .scalar none style text => some (if isBareNull style text then none else some text)
  | .scalar (some tag) style text =>
    if style == .plain && tag.text? = some "tag:yaml.org,2002:null" then
      if isNullWord text then some none else none
    else some (some text)
  | _ => none

/-- A truth value: a plain scalar, or a literal block with the tag for truth values. -/
def flag? : Node → Option Bool
  | .scalar tag style text =>
    if style == .plain || (style == .literal && tag == some ⟨some "tag:yaml.org,2002:bool"⟩) then
      truthValue? text
    else none
  | _ => none

/-- The word after the exclamation mark of a tag of the document's own. -/
def localTag? (tag : Option Tag) : Option String := do
  match (← (← tag).text?).toList with
  | ['!'] => some "!"
  | '!' :: word => some (String.ofList word)
  | _ => none

/-- The name of a format as a text, or as a tag on a scalar that is null. -/
def format? : Node → Option OutputFormat
  | .scalar tag style text =>
    match localTag? tag with
    | some name => if isBareNull style text then OutputFormat.ofName? name else none
    | none => OutputFormat.ofName? text
  | _ => none

/-- The configuration after one more entry; `none` marks a key that is known and a value that does not fit
    it. -/
def accept (d : Document) (c : Config) (key : String) (value : Node) : Option Config :=
  match key with
  | "output_format" => (d.resolve value).bind format? |>.map fun f => { c with outputFormat := f }
  | "submit_label" => (d.resolve value).bind text? |>.map fun s => { c with submitLabel := s }
  | "form_template" => (d.resolve value).bind path? |>.map fun p => { c with formTemplate := p }
  | "field_template" => (d.resolve value).bind path? |>.map fun p => { c with fieldTemplate := p }
  | "placeholder_as_default" =>
    (d.resolve value).bind flag? |>.map fun b => { c with placeholderAsDefault := b }
  | _ => some c

/-- The keys that mean something. -/
def keys : List String :=
  ["output_format", "submit_label", "form_template", "field_template", "placeholder_as_default"]

/-- The configuration after the entries of a mapping; `seen` are the known keys so far. -/
def ofEntries (d : Document) (seen : List String) (c : Config) : List (Node × Node) → Option Config
  | [] => some c
  | (key, value) :: es => do
    let key ← (d.resolve key).bind text?
    guard (!seen.contains key)
    let c ← accept d c key value
    ofEntries d (if keys.contains key then key :: seen else seen) c es

/-- The configuration in a document, which is a mapping or nothing at all. -/
def ofDocument? (d : Document) : Option Config :=
  match d.root with
  | .mapping _ entries => ofEntries d [] {} entries
  | .scalar _ .plain "" => some {}
  | _ => none

/-- The valid configuration in a text. -/
def ofYaml (text : String) : Except Failure Config :=
  match (document? text).bind ofDocument? with
  | none => .error (.malformedConfig "not a mapping with settings")
  | some c => c.validate.map fun _ => c

/-! ## Files -/

/-- The configuration in a file, its relative paths seen from the directory of the file. -/
def load (storage : Storage) (path : String) : Except Failure Config :=
  match storage.read path with
  | .error e => .error (.unreadableConfig path e)
  | .ok text => (ofYaml text).map fun c =>
    match Path.parent? path with
    | some base => c.resolve base
    | none => c

/-- The file that is looked at, unless one is named. -/
def usualPath (dir : String) : String := Path.join dir fileName

/-- The configuration in use. A file that is named has to be there. -/
def discover (storage : Storage) (explicit : Option String) (dir : String) : Except Failure Config :=
  match explicit with
  | some path => load storage path
  | none => if storage.isFile (usualPath dir) then load storage (usualPath dir) else .ok {}

end AskSheet.Config
