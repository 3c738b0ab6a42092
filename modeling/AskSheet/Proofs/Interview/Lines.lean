/-
  Interviews that are answered in lines. A text that can stand on a line of its own (`IsLine`) comes
  back from the line that it is typed on, so as many lines as there are prompts are the answers
  (`ask_lines`). Whatever the input is, an interview that is not broken off gives one such text for
  each prompt (`isLine_of_ask`).
-/
import AskSheet.Interview
import AskSheet.Proofs.Failure
import AskSheet.Proofs.Text.Encoding
import AskSheet.Text.Basic
import Mathlib.Data.List.DropRight
import Mathlib.Data.List.Infix

namespace AskSheet

open Text

/-- A text that comes back from a line of its own. -/
structure IsLine (text : String) : Prop where
  no_feed : '\n' ∉ text.toList
  no_return : text.toList.getLast? ≠ some '\r'

instance (text : String) : Decidable (IsLine text) :=
  decidable_of_iff ('\n' ∉ text.toList ∧ text.toList.getLast? ≠ some '\r')
    ⟨fun ⟨hn, hr⟩ => ⟨hn, hr⟩, fun ⟨hn, hr⟩ => ⟨hn, hr⟩⟩

theorem isLine_empty : IsLine "" := by decide +kernel

theorem encodeText_unlines_cons (l : String) (ls : List String) :
    encodeText (unlines (l :: ls)) = encodeText l ++ 10 :: encodeText (unlines ls) := by
  rw [unlines_cons, encodeText_append, encodeText_append, encodeText_newline, List.append_assoc,
    List.singleton_append]

namespace Interview

/-! ## Cutting a line off -/

theorem splitLine_append {line : List UInt8} (h : 10 ∉ line) (rest : List UInt8) :
    splitLine (line ++ 10 :: rest) = (line ++ [10], rest) := by
  induction line with
  | nil => rw [List.nil_append, splitLine, if_pos rfl, List.nil_append]
  | cons b line ih =>
    obtain ⟨hb, h⟩ := not_or.mp (mt List.mem_cons.mpr h)
    rw [List.cons_append, splitLine, if_neg (Ne.symm hb), ih h, List.cons_append]

theorem splitLine_of_not_mem {input : List UInt8} (h : 10 ∉ input) :
    splitLine input = (input, []) := by
  induction input with
  | nil => rfl
  | cons b input ih =>
    obtain ⟨hb, h⟩ := not_or.mp (mt List.mem_cons.mpr h)
    rw [splitLine, if_neg (Ne.symm hb), ih h]

/-- A line has no line feed before its end. -/
theorem newline_not_mem_dropLast_splitLine (input : List UInt8) :
    10 ∉ (splitLine input).1.dropLast := by
  by_cases h : 10 ∈ input
  · obtain ⟨line, rest, rfl, hline⟩ := List.eq_append_cons_of_mem h
    rw [splitLine_append hline, List.dropLast_concat]
    exact hline
  · rw [splitLine_of_not_mem h]
    exact fun hm => h (List.mem_of_mem_dropLast hm)

/-! ## Trimming the end of a line -/

/-- The characters that a line ends with. -/
def isEnding (c : Char) : Bool := c == '\n' || c == '\r'

theorem toList_trimLineEnd (text : String) :
    (trimLineEnd text).toList = text.toList.rdropWhile isEnding := by
  rw [trimLineEnd, String.toList_ofList]
  rfl

theorem trimLineEnd_append_newline {text : String} (h : IsLine text) :
    trimLineEnd (text ++ "\n") = text := by
  have hend : ∀ hne : text.toList ≠ [], ¬isEnding (text.toList.getLast hne) = true := by
    intro hne hending
    rcases Bool.or_eq_true_iff.mp hending with hn | hr
    · exact h.no_feed ((beq_iff_eq.mp hn) ▸ List.getLast_mem hne)
    · exact h.no_return ((List.getLast?_eq_some_getLast hne).trans
        (congrArg some (beq_iff_eq.mp hr)))
  rw [← String.toList_inj, toList_trimLineEnd, String.toList_append]
  show (text.toList ++ ['\n']).rdropWhile isEnding = text.toList
  rw [List.rdropWhile_concat_pos _ _ _ rfl, List.rdropWhile_eq_self_iff.mpr hend]

/-- What is left of a line is a line. -/
theorem isLine_trimLineEnd {text : String} (h : '\n' ∉ text.toList.dropLast) :
    IsLine (trimLineEnd text) := by
  have hend : ∀ hne : (trimLineEnd text).toList ≠ [],
      ¬isEnding ((trimLineEnd text).toList.getLast hne) = true := by
    rw [toList_trimLineEnd]
    exact List.rdropWhile_last_not isEnding text.toList
  constructor
  · intro hmem
    have hne := List.ne_nil_of_mem hmem
    -- the last character that is left is no ending, so the line feed has something behind it
    have hinner : '\n' ∈ (trimLineEnd text).toList.dropLast := by
      rw [← List.dropLast_concat_getLast hne, List.mem_append, List.mem_singleton] at hmem
      refine hmem.resolve_right fun hlast => hend hne ?_
      rw [← hlast]
      rfl
    obtain ⟨ending, htext⟩ : (trimLineEnd text).toList <+: text.toList := by
      rw [toList_trimLineEnd]
      exact List.rdropWhile_prefix isEnding text.toList
    rw [← htext] at h
    cases ending with
    | nil => exact h (by rwa [List.append_nil])
    | cons c ending =>
      rw [List.dropLast_append_of_ne_nil (List.cons_ne_nil c ending)] at h
      exact h (List.mem_append_left _ (List.mem_of_mem_dropLast hinner))
  · intro hlast
    obtain ⟨hne, hreturn⟩ := List.mem_getLast?_eq_getLast (Option.mem_def.mpr hlast)
    refine hend hne ?_
    rw [← hreturn]
    rfl

/-! ## Asking -/

section

variable {p : Prompt} {number : Nat} {ps : List (Prompt × Nat)} {input line rest : List UInt8}

/-- A line that is a text is the answer to the prompt that was shown. -/
theorem ask_line {text : String} (hline : splitLine input = (line, rest)) (hne : line ≠ [])
    (htext : decodeText line = .ok text) :
    ask ((p, number) :: ps) input =
      { shown := p.question ++ (ask ps rest).shown
        answers := (ask ps rest).answers.map (trimLineEnd text :: ·)
        exhausted := (ask ps rest).exhausted } := by
  obtain ⟨b, line, rfl⟩ := List.exists_cons_of_ne_nil hne
  rw [ask, hline]
  dsimp only
  rw [htext]

/-- Without more input this prompt is the last one shown. -/
theorem ask_used_up (hline : splitLine input = ([], rest)) :
    ask ((p, number) :: ps) input =
      { shown := p.question, answers := .ok ("" :: ps.map fun _ => ""), exhausted := true } := by
  rw [ask, hline]

/-- A line that is no text breaks the interview off. -/
theorem ask_unreadable {e : ReadError} (hline : splitLine input = (line, rest)) (hne : line ≠ [])
    (htext : decodeText line = .error e) :
    ask ((p, number) :: ps) input =
      { shown := p.question, answers := .error (.unreadableAnswer number e), exhausted := false } := by
  obtain ⟨b, line, rfl⟩ := List.exists_cons_of_ne_nil hne
  rw [ask, hline]
  dsimp only
  rw [htext]

end

/-- As many lines as there are prompts are the answers to them. -/
theorem ask_lines {ps : List (Prompt × Nat)} {answers : List String}
    (hlen : answers.length = ps.length) (h : ∀ a ∈ answers, IsLine a) :
    (ask ps (encodeText (unlines answers))).answers = .ok answers := by
  induction ps generalizing answers with
  | nil =>
    rw [List.length_nil, List.length_eq_zero_iff] at hlen
    rw [hlen, ask]
  | cons p ps ih =>
    obtain ⟨a, as, rfl⟩ := List.exists_cons_of_length_eq_add_one hlen
    have ha := h a List.mem_cons_self
    have hrest := ih (Nat.succ.inj hlen) fun b hb => h b (List.mem_cons_of_mem a hb)
    have hfeed : 10 ∉ encodeText a := mt newline_mem_encodeText_iff.mp ha.no_feed
    have htext : decodeText (encodeText a ++ [10]) = .ok (a ++ "\n") := by
      rw [← encodeText_newline, ← encodeText_append, decodeText_encodeText]
    rw [encodeText_unlines_cons, ask_line (splitLine_append hfeed _) (by simp) htext, hrest,
      trimLineEnd_append_newline ha]
    rfl

/-- The answers of an interview that was not broken off are lines, one for each prompt. -/
theorem isLine_of_ask {ps : List (Prompt × Nat)} {input : List UInt8} {answers : List String}
    (h : (ask ps input).answers = .ok answers) :
    answers.length = ps.length ∧ ∀ a ∈ answers, IsLine a := by
  induction ps generalizing input answers with
  | nil =>
    obtain rfl : [] = answers := Except.ok.inj h
    exact ⟨rfl, fun a ha => absurd ha List.not_mem_nil⟩
  | cons p ps ih =>
    rcases hline : splitLine input with ⟨line, rest⟩
    by_cases hne : line = []
    · rw [hne] at hline
      rw [ask_used_up hline] at h
      obtain rfl := Except.ok.inj h
      have hempty : ∀ a ∈ "" :: ps.map fun _ => "", a = "" := by simp
      exact ⟨by simp, fun a ha => hempty a ha ▸ isLine_empty⟩
    · cases htext : decodeText line with
      | error e =>
        rw [ask_unreadable hline hne htext] at h
        exact absurd h (by simp)
      | ok text =>
        rw [ask_line hline hne htext] at h
        obtain ⟨as, hnext, rfl⟩ := map_eq_ok_iff.mp h
        obtain ⟨hlen, has⟩ := ih hnext
        have hfeed := newline_not_mem_dropLast_splitLine input
        rw [hline, decodeText_eq_ok_iff.mp htext] at hfeed
        refine ⟨congrArg (· + 1) hlen, List.forall_mem_cons.mpr ⟨?_, has⟩⟩
        exact isLine_trimLineEnd (newline_not_mem_dropLast hfeed)

end Interview

end AskSheet
