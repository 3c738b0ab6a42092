/-
  Sheets as JSON documents: an object with a title, a description and the inputs, each of which has a label
  and a placeholder. Reading takes an array of the values in place of an object, and of an object it takes
  every member exactly once, passing over those that it does not know.
-/
import AskSheet.Json.Reader
import AskSheet.Json.Writer
import AskSheet.Sheet

namespace AskSheet

/-- The values of a record with these members. -/
def Json.fields? (names : List String) : Json → Option (List Json)
  | .array items => if items.length = names.length then some items else none
  | .object members =>
    if members.all (·.1.isSome) then
      names.mapM fun name =>
        match members.filter (·.1 == some name) with
        | [(_, value)] => some value
        | _ => none
    else none
  | _ => none

/-- The text of a string. -/
def Json.text? : Json → Option String
  | .string s => s
  | _ => none

namespace Prompt

def toJson (p : Prompt) : Json :=
  .object [(some "label", .string p.label), (some "placeholder", .string p.placeholder)]

def ofJson? (j : Json) : Option Prompt :=
  match j.fields? ["label", "placeholder"] with
  | some [label, placeholder] => do
    return { label := ← label.text?, placeholder := ← placeholder.text? }
  | _ => none

end Prompt

namespace Sheet

def toJson (s : Sheet) : Json :=
  .object [(some "title", .string s.title), (some "description", .string s.description),
    (some "inputs", .array (s.prompts.map Prompt.toJson))]

def ofJson? (j : Json) : Option Sheet :=
  match j.fields? ["title", "description", "inputs"] with
  | some [title, description, .array inputs] => do
    return { title := ← title.text?, description := ← description.text?
             prompts := ← inputs.mapM Prompt.ofJson? }
  | _ => none

/-- The sheet in a JSON document. -/
def parseJson? (text : String) : Option Sheet := (Json.parse? text).bind ofJson?

end Sheet

end AskSheet
