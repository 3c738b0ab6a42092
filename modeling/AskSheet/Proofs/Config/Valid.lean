/-
  Valid configurations: what the check of a configuration asks for (`validate_eq_ok_iff`), and that
  reading accepts a text just when it is a document with a configuration that passes
  (`ofYaml_eq_ok_iff`).
-/
import AskSheet.Config.Discovery
import AskSheet.Proofs.Failure

namespace AskSheet.Config

theorem validate_eq_ok_iff {c : Config} :
    c.validate = .ok () ↔ Text.allBlank c.submitLabel = false ∧
      c.formTemplate ≠ some "" ∧ c.fieldTemplate ≠ some "" := by
  unfold validate
  split
  · rename_i hblank
    simp [hblank]
  · rename_i hlabel
    split
    · rename_i hform
      simp [hform]
    · rename_i hform
      split
      · rename_i hfield
        simp [hfield]
      · rename_i hfield
        simp [hlabel, hform, hfield]

theorem validate_builtIn : ({} : Config).validate = .ok () := by
  rw [validate_eq_ok_iff]
  decide

/-- The text is a document, the document is a configuration, and the configuration is valid. -/
theorem ofYaml_eq_ok_iff {text : String} {c : Config} :
    ofYaml text = .ok c ↔ ∃ document, Yaml.document? text = some document ∧
      ofDocument? document = some c ∧ c.validate = .ok () := by
  constructor
  · intro h
    unfold ofYaml at h
    split at h
    · exact absurd h nofun
    · rename_i read hread
      obtain ⟨document, hdocument, hconfig⟩ := Option.bind_eq_some_iff.mp hread
      obtain ⟨_, hvalid, rfl⟩ := map_eq_ok_iff.mp h
      exact ⟨document, hdocument, hconfig, hvalid⟩
  · rintro ⟨document, hdocument, hconfig, hvalid⟩
    rw [ofYaml, hdocument, Option.bind_some, hconfig]
    exact map_eq_ok_iff.mpr ⟨(), hvalid, rfl⟩

end AskSheet.Config
