/-
  What every sheet of a script has in common, whatever the script is. Labels and placeholders are
  trimmed and stand on one line, a placeholder closes no bracket before its end, and without a title
  there is no description (`Sheet.Tidy`, `tidy_ofScript`). Labels are trimmed before their brackets
  lose their backslashes, which uncovers no blank (`Prompt.tidy_parse`).
-/
import AskSheet.Proofs.Call.Occurrence
import AskSheet.Proofs.Prompt.Brackets
import AskSheet.Proofs.Script.FirstBlock

namespace AskSheet

open Text

/-! ## Prompts -/

namespace Prompt

/-- Label and placeholder are trimmed and on one line, and each `]` in the placeholder stands right
    after a backslash. -/
structure Tidy (p : Prompt) : Prop where
  label_trimmed : Trimmed p.label.toList
  label_line : '\n' ∉ p.label.toList
  placeholder_trimmed : Trimmed p.placeholder.toList
  placeholder_line : '\n' ∉ p.placeholder.toList
  closing_guarded : Guarded ']' p.placeholder.toList

theorem mem_of_mem_unescape {c : Char} {cs : List Char} (h : c ∈ unescape cs) : c ∈ cs := by
  fun_induction unescape cs with
  | case1 => exact h
  | case2 cs ih | case3 cs ih =>
    refine List.mem_cons_of_mem _ ?_
    exact (List.mem_cons.mp h).elim (fun heq => heq ▸ List.mem_cons_self)
      fun hmem => List.mem_cons_of_mem _ (ih hmem)
  | case4 d cs _ _ ih =>
    exact (List.mem_cons.mp h).elim (fun heq => heq ▸ List.mem_cons_self)
      fun hmem => List.mem_cons_of_mem _ (ih hmem)

/-- The label is a trimmed text without some of its backslashes, and that text is taken from the
    written prompt. -/
theorem exists_label (raw : String) : ∃ cs, Trimmed cs ∧ (∀ c ∈ cs, c ∈ raw.toList) ∧
    (parse raw).label.toList = unescape cs := by
  rw [parse]
  split
  · rename_i before inside after hsplit
    refine ⟨_, trimmed_trimChars (before ++ after), fun c hc => ?_, String.toList_ofList⟩
    rw [eq_of_splitBrackets hsplit]
    rcases List.mem_append.mp (mem_of_mem_trimChars hc) with hmem | hmem
    · exact List.mem_append_left _ hmem
    · exact List.mem_append_right before
        (List.mem_cons_of_mem _ (List.mem_append_right inside (List.mem_cons_of_mem _ hmem)))
  · exact ⟨_, trimmed_trimChars raw.toList, fun c hc => mem_of_mem_trimChars hc,
      String.toList_ofList⟩

/-- Trimming takes no backslash away from before a delimiter. -/
theorem guarded_trimChars {d : Char} {cs : List Char} (h : Guarded d cs) :
    Guarded d (trimChars cs) := by
  intro before after hcs
  obtain ⟨w, v, hsides, hw, -⟩ := exists_trimChars cs
  rw [hcs] at hsides
  have hlast := h (w ++ before) (after ++ v) (by rw [hsides]; simp)
  rw [List.getLast?_append] at hlast
  cases hbefore : before.getLast? with
  | some c => rwa [hbefore, Option.some_or] at hlast
  | none =>
    rw [hbefore, Option.none_or] at hlast
    exact absurd (hw _ (List.mem_of_getLast? hlast)) (by decide)

theorem guarded_placeholder (raw : String) : Guarded ']' (parse raw).placeholder.toList := by
  rw [parse]
  split
  · rename_i hsplit
    obtain ⟨-, -, hguarded, -⟩ := splitBrackets_eq_some_iff.mp hsplit
    rw [String.toList_ofList]
    exact guarded_trimChars hguarded
  · intro before after hnil
    exact absurd hnil (by simp)

/-- A prompt that is written on one line is tidy when it is read. -/
theorem tidy_parse {raw : String} (hline : '\n' ∉ raw.toList) : (parse raw).Tidy := by
  obtain ⟨cs, htrimmed, hmem, hlabel⟩ := exists_label raw
  refine ⟨?_, ?_, trimmed_placeholder raw, fun h => hline (mem_of_mem_placeholder h),
    guarded_placeholder raw⟩
  · rw [hlabel]
    exact trimmed_unescape htrimmed
  · rw [hlabel]
    exact fun h => hline (hmem _ (mem_of_mem_unescape h))

end Prompt

/-! ## Title and description -/

namespace Script.DocBlock

/-- Title and description are trimmed, the title is on one line, and without it there is no
    description. -/
structure Tidy (b : DocBlock) : Prop where
  title_trimmed : Trimmed b.title.toList
  title_line : '\n' ∉ b.title.toList
  description_trimmed : Trimmed b.description.toList
  description_of_title : b.title = "" → b.description = ""

theorem tidy_empty : Tidy { title := "", description := "" } :=
  ⟨trimmed_nil, List.not_mem_nil, trimmed_nil, fun _ => rfl⟩

theorem Describes.tidy {content : List Char} {b : DocBlock} (h : Describes content b) : b.Tidy := by
  cases h with
  | blank _ _ => exact tidy_empty
  | @told blanks ls l hlines _ hl =>
    have htitle : trim (String.ofList l) ≠ "" := by
      rw [ne_eq, trim_ofList_eq_empty_iff, hl]
      exact Bool.false_ne_true
    refine ⟨trimmed_trim _, ?_, trimmed_trim _, fun hempty => absurd hempty htitle⟩
    have hmem : l ∈ lines content := by
      rw [hlines.lines_eq]
      exact List.mem_append_right blanks List.mem_cons_self
    rw [trim_toList, String.toList_ofList]
    exact fun hfeed => newline_not_mem_of_mem_lines hmem (mem_of_mem_trimChars hfeed)

end Script.DocBlock

/-! ## Sheets -/

namespace Sheet

/-- The texts of a sheet are fit for lists that give a line to each prompt. -/
structure Tidy (s : Sheet) : Prop where
  heading : Script.DocBlock.Tidy { title := s.title, description := s.description }
  prompts : ∀ p ∈ s.prompts, p.Tidy

/-- The sheet of every script is tidy. -/
theorem tidy_ofScript (source : String) : (ofScript source).Tidy := by
  constructor
  · show (Script.DocBlock.Tidy ((Script.DocBlock.find? source).getD _))
    cases hfind : Script.DocBlock.find? source with
    | none => exact Script.DocBlock.tidy_empty
    | some b =>
      obtain ⟨content, -, rfl⟩ := Option.map_eq_some_iff.mp hfind
      exact (Script.DocBlock.describes_ofContent content).tidy
  · intro p hp
    obtain ⟨raw, hraw, rfl⟩ := List.mem_map.mp hp
    exact Prompt.tidy_parse (Script.Call.newline_not_mem_of_literals hraw)

end Sheet

end AskSheet
