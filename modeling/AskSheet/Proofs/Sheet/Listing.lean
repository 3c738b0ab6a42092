/-
  Listings of scripts. The texts of a tidy sheet break no line (`Tidy.newline_not_mem_listing`), and
  no line of the heading is a separator, because each has a start of its own
  (`not_separator_of_mem_headingLines`). So the first separator of a listing is the one that the
  listing puts there, whatever the script says, and as many lines follow it as the script has
  prompts (`listing_sections`).
-/
import AskSheet.Proofs.Sheet.Tidy
import AskSheet.Proofs.Text.Numeral
import AskSheet.Sheet.Print

namespace AskSheet

open Text

theorem newline_not_mem_append {s t : String} (hs : '\n' ∉ s.toList) (ht : '\n' ∉ t.toList) :
    '\n' ∉ (s ++ t).toList := by
  rw [String.toList_append, List.mem_append]
  exact not_or.mpr ⟨hs, ht⟩

theorem Prompt.listing_eq (p : Prompt) (number : Nat) :
    p.listing number = "  " ++ decimal number ++ ". " ++ p.label ++
      if p.placeholder ≠ "" then " [" ++ p.placeholder ++ "]" else "" := by
  simp only [listing, hasPlaceholder, bne_iff_ne]

/-- The line of a prompt without line breaks is one line. -/
theorem Prompt.Tidy.newline_not_mem_listing {p : Prompt} (h : p.Tidy) (number : Nat) :
    '\n' ∉ (p.listing number).toList := by
  have hfront : '\n' ∉ ("  " ++ decimal number ++ ". ").toList :=
    newline_not_mem_append
      (newline_not_mem_append (by decide) (not_mem_decimal (by decide) number)) (by decide)
  have hlabel := newline_not_mem_append hfront h.label_line
  rw [listing_eq]
  refine newline_not_mem_append hlabel ?_
  split
  · exact newline_not_mem_append (newline_not_mem_append (by decide) h.placeholder_line)
      (by decide)
  · exact List.not_mem_nil

namespace Sheet

/-- The lines that end the heading of a listing. -/
def separators : List String := ["Prompts:", "No prompts found."]

/-- The line after the heading. -/
def separator (s : Sheet) : String := if s.prompts = [] then "No prompts found." else "Prompts:"

theorem promptLines_eq (s : Sheet) :
    s.promptLines = s.separator :: s.numbered.map fun (p, number) => p.listing number := by
  rw [promptLines, separator]
  split
  · rename_i hempty
    rw [numbered, hempty]
    rfl
  · rfl

theorem separator_mem_separators (s : Sheet) : s.separator ∈ separators := by
  unfold separator
  split <;> decide

theorem separator_eq_iff (s : Sheet) :
    s.separator = "No prompts found." ↔ s.prompts.length = 0 := by
  rw [separator, List.length_eq_zero_iff]
  split
  · rename_i hempty
    exact iff_of_true rfl hempty
  · rename_i hne
    exact iff_of_false (by decide) hne

/-! ## The heading -/

/-- The lines of a heading start with words of the listing or with spaces. -/
theorem mem_headingLines {s : Sheet} {l : String} (h : l ∈ s.headingLines) :
    l = "Title: " ++ s.title ∨ l = "Description:" ∨
      ∃ told ∈ lines s.description.toList, l = "  " ++ String.ofList told := by
  rw [headingLines] at h
  rcases List.mem_append.mp h with h | h
  · split at h
    · exact absurd h List.not_mem_nil
    · exact Or.inl (List.mem_singleton.mp h)
  · split at h
    · exact absurd h List.not_mem_nil
    · rcases List.mem_cons.mp h with h | h
      · exact Or.inr (Or.inl h)
      · obtain ⟨told, htold, rfl⟩ := List.mem_map.mp h
        exact Or.inr (Or.inr ⟨told, htold, rfl⟩)

/-- A separator starts with a letter that starts no line of a heading. -/
theorem head?_of_mem_separators {l : String} (h : l ∈ separators) :
    l.toList.head? = some 'P' ∨ l.toList.head? = some 'N' := by
  revert l
  decide

theorem not_separator_of_mem_headingLines {s : Sheet} {l : String} (h : l ∈ s.headingLines) :
    l ∉ separators := by
  intro hseparator
  have hhead := head?_of_mem_separators hseparator
  rcases mem_headingLines h with rfl | rfl | ⟨told, -, rfl⟩
  · simp at hhead
  · simp at hhead
  · simp at hhead

/-- No text of a tidy sheet breaks a line of its listing. -/
theorem Tidy.newline_not_mem_lines {s : Sheet} (h : s.Tidy) {l : String}
    (hl : l ∈ s.headingLines ++ s.promptLines) : '\n' ∉ l.toList := by
  rcases List.mem_append.mp hl with hl | hl
  · rcases mem_headingLines hl with rfl | rfl | ⟨told, htold, rfl⟩
    · exact newline_not_mem_append (by decide) h.heading.title_line
    · decide
    · refine newline_not_mem_append (by decide) ?_
      rw [String.toList_ofList]
      exact newline_not_mem_of_mem_lines htold
  · rw [promptLines_eq] at hl
    rcases List.mem_cons.mp hl with rfl | hl
    · unfold separator
      split <;> decide
    · obtain ⟨⟨p, number⟩, hp, rfl⟩ := List.mem_map.mp hl
      exact (h.prompts p (List.fst_mem_of_mem_zipIdx hp)).newline_not_mem_listing number

/-- The listing of a script is lines, each ended by a line feed. The first of them that is a
    separator comes after title and description, and says whether there are prompts; after it comes
    one line for each prompt, with its number, and nothing else. -/
theorem listing_sections (source : String) :
    let s := ofScript source
    ∃ heading separator entries told,
      (s.print .text).toList.splitOn '\n' =
        (heading ++ separator :: entries).map String.toList ++ [[]] ∧
      separator ∈ separators ∧ (∀ l ∈ heading, l ∉ separators) ∧
      (separator = "No prompts found." ↔ s.prompts.length = 0) ∧
      entries.length = s.prompts.length ∧
      (∀ i p, s.prompts[i]? = some p → entries[i]? = some ("  " ++ decimal (i + 1) ++ ". " ++
        p.label ++ if p.placeholder ≠ "" then " [" ++ p.placeholder ++ "]" else "")) ∧
      HasLines s.description.toList told ∧
      heading = (if s.title ≠ "" then ["Title: " ++ s.title] else []) ++
        if s.description ≠ "" then "Description:" :: told.map ("  " ++ String.ofList ·) else [] := by
  intro s
  refine ⟨s.headingLines, s.separator, s.numbered.map fun (p, number) => p.listing number,
    lines s.description.toList, ?_, s.separator_mem_separators,
    fun l => not_separator_of_mem_headingLines, s.separator_eq_iff, ?_, fun i p hp => ?_,
    hasLines_lines _, ?_⟩
  · rw [← promptLines_eq]
    exact splitOn_unlines fun l hl => (tidy_ofScript source).newline_not_mem_lines hl
  · rw [List.length_map, numbered, List.length_zipIdx]
  · rw [List.getElem?_map, numbered, List.getElem?_zipIdx, hp, Option.map_some, Option.map_some,
      Nat.add_comm]
    exact congrArg some (p.listing_eq (i + 1))
  · rw [headingLines]
    simp only [ne_eq, ite_not]

/-- A script whose title and description say what separators say. -/
example : (ofScript "\'\'\'Prompts:\nNo prompts found.\'\'\'").print .text =
    "Title: Prompts:\nDescription:\n  No prompts found.\nNo prompts found.\n" := by
  decide +kernel

end Sheet

end AskSheet
