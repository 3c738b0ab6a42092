/-
  Reading a documentation block that was written. A text without three quotes in a row, ended by a
  line feed and three quotes, is read up to these quotes (`content?_written`); its first line that
  is not blank and the lines after it come back as title and description (`ofContent_written`).
-/
import AskSheet.Proofs.Text.Lines
import AskSheet.Proofs.Text.Trim
import AskSheet.Script.DocBlock

namespace AskSheet.Script.DocBlock

open Text

theorem untilTriple_append {q : Char} (hq : q ≠ '\n') {cs : List Char} (h : ¬[q, q, q] <:+: cs)
    (rest : List Char) :
    untilTriple q (cs ++ '\n' :: q :: q :: q :: rest) = some (cs ++ ['\n']) := by
  have hline : '\n' ∉ [q, q, q] := by simp [Ne.symm hq]
  have hnot : ∀ {ds : List Char}, ¬[q, q, q] <:+: ds →
      ∀ tail, [q, q, q].isPrefixOf (ds ++ '\n' :: tail) = false := by
    intro ds hds tail
    refine Bool.eq_false_iff.mpr fun hpre => hds ?_
    exact (prefix_of_prefix_append_cons (List.isPrefixOf_iff_prefix.mp hpre) hline).isInfix
  induction cs with
  | nil =>
    have hfirst := hnot h (q :: q :: q :: rest)
    rw [List.nil_append] at hfirst ⊢
    rw [untilTriple, hfirst, if_neg Bool.false_ne_true, untilTriple, if_pos (by simp)]
    rfl
  | cons c cs ih =>
    have hfirst := hnot h (q :: q :: q :: rest)
    rw [List.cons_append] at hfirst ⊢
    rw [untilTriple, hfirst, if_neg Bool.false_ne_true,
      ih fun hin => h (hin.trans (List.suffix_cons c cs).isInfix)]
    rfl

/-- The content of a block that stands at the start of a source. -/
theorem content?_written {cs : List Char} (h : ¬['"', '"', '"'] <:+: cs) (rest : List Char) :
    content? ('"' :: '"' :: '"' :: (cs ++ '\n' :: '"' :: '"' :: '"' :: rest)) =
      some (cs ++ ['\n']) := by
  rw [content?, contentAt?, untilTriple_append (by decide) h, Option.some_or]

/-- Title and description come back from the lines they were written on. -/
theorem ofContent_written {title description : List Char} (ht : Trimmed title)
    (hd : Trimmed description) (hline : '\n' ∉ title) (htr : '\r' ∉ title)
    (hdr : '\r' ∉ description) (hempty : title = [] → description = []) :
    ofContent ('\n' :: (title ++ '\n' :: (description ++ ['\n']))) =
      { title := String.ofList title, description := String.ofList description } := by
  have hlines : lines ('\n' :: (title ++ '\n' :: (description ++ ['\n']))) =
      [] :: title :: lines (description ++ ['\n']) := by
    rw [lines, lines_append_newline hline fun h => htr (List.mem_of_getLast? h)]
  rw [ofContent, hlines]
  by_cases hnil : title = []
  · rw [hnil, hempty hnil]
    rfl
  · rw [List.dropWhile_cons_of_pos (by rfl),
      List.dropWhile_cons_of_neg (by rw [all_blank_of_trimmed ht hnil]; exact Bool.false_ne_true)]
    dsimp only
    rw [join_lines hdr, trimChars_eq_self_iff.mpr ht, trimChars_eq_self_iff.mpr hd]

end AskSheet.Script.DocBlock
