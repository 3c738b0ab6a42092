/-
  What a prompt that was read consists of. The placeholder stands in the written prompt as it is
  (`mem_of_mem_placeholder`) and has no blanks around it (`trimmed_placeholder`).
-/
import AskSheet.Proofs.Text.Trim
import AskSheet.Prompt

namespace AskSheet.Prompt

open Text

/-- The cuts lose only the brackets. -/
theorem eq_of_splitBrackets {raw before inside after : List Char}
    (h : splitBrackets raw = some (before, inside, after)) :
    raw = before ++ '[' :: (inside ++ ']' :: after) := by
  simp only [splitBrackets, Option.bind_eq_bind, Option.bind_eq_some_iff, Prod.exists,
    Option.pure_def, Option.some.injEq, Prod.mk.injEq] at h
  obtain ⟨b, rest, hopen, i, a, hclose, rfl, rfl, rfl⟩ := h
  rw [eq_of_cutAt hopen, eq_of_cutAt hclose]

theorem trimmed_placeholder (raw : String) : Trimmed (parse raw).placeholder.toList := by
  rw [parse]
  split
  · rw [String.toList_ofList]
    exact trimmed_trimChars _
  · exact trimmed_nil

theorem mem_of_mem_placeholder {raw : String} {c : Char}
    (h : c ∈ (parse raw).placeholder.toList) : c ∈ raw.toList := by
  rw [parse] at h
  split at h
  · rename_i before inside after hsplit
    rw [String.toList_ofList] at h
    rw [eq_of_splitBrackets hsplit]
    exact List.mem_append_right before
      (List.mem_cons_of_mem '[' (List.mem_append_left _ (mem_of_mem_trimChars h)))
  · exact absurd h List.not_mem_nil

end AskSheet.Prompt
