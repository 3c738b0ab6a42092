/-
  Sheets that were written as JSON. The document of a sheet holds the sheet (`ofJson?_toJson`), and
  it is textual, so a sheet is read back from its document in one line and from the text that is
  printed of it (`parseJson?_written`), whatever its texts are and however many prompts it has.
-/
import AskSheet.Proofs.Json.Writing
import AskSheet.Sheet.Print

namespace AskSheet

open Json

namespace Prompt

theorem isTextual_toJson (p : Prompt) : p.toJson.isTextual = true := rfl

theorem ofJson?_toJson (p : Prompt) : ofJson? p.toJson = some p := by
  cases p
  rfl

end Prompt

namespace Sheet

theorem isTextual_toJson (s : Sheet) : s.toJson.isTextual = true := by
  have hprompts : areTextual (s.prompts.map Prompt.toJson) = true := by
    rw [areTextual_iff, List.forall_mem_map]
    exact fun p _ => p.isTextual_toJson
  unfold toJson
  simp [isTextual, membersAreTextual, hprompts]

theorem mapM_ofJson?_toJson (ps : List Prompt) :
    (ps.map Prompt.toJson).mapM Prompt.ofJson? = some ps := by
  induction ps with
  | nil => rfl
  | cons p ps ih =>
    rw [List.map_cons, List.mapM_cons, Prompt.ofJson?_toJson, ih]
    rfl

/-- The document of a sheet holds the sheet. -/
theorem ofJson?_toJson (s : Sheet) : ofJson? s.toJson = some s := by
  have hfields : s.toJson.fields? ["title", "description", "inputs"] =
      some [.string s.title, .string s.description, .array (s.prompts.map Prompt.toJson)] := rfl
  rw [ofJson?, hfields]
  simp only [text?, mapM_ofJson?_toJson]
  rfl

theorem parseJson?_of_parse? {s : Sheet} {text : String} (h : parse? text = some s.toJson) :
    parseJson? text = some s := by
  rw [parseJson?, h, Option.bind_some, ofJson?_toJson]

/-- A sheet is read back from its document in one line and from what is printed of it as JSON. -/
theorem parseJson?_written (s : Sheet) :
    parseJson? s.toJson.compact = some s ∧ parseJson? (s.print .json) = some s := by
  have hgap : IsGap "\n".toList := by decide
  constructor
  · exact parseJson?_of_parse? (parse?_compact s.isTextual_toJson)
  · exact parseJson?_of_parse? (parse?_pretty s.isTextual_toJson hgap)

end Sheet

end AskSheet
