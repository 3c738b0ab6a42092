/-
  How much of its input an interview reads. `TypedLines input ls` cuts the input into lines, each with
  the line feed that ends it, and there is one way to do so (`exists_typedLines`,
  `TypedLines.unique`). Asking takes one line for each prompt and one more prompt is shown when the
  lines are used up (`ask_of_texts`); a line that is no text ends it at its prompt
  (`ask_of_no_text`); lines behind that of the last prompt are not looked at (`ask_congr`).

  `interview_reads_lines` says this about the interview of a sheet.
-/
import AskSheet.Proofs.Interview.Lines
import Mathlib.Data.List.Forall2

namespace AskSheet

open Text

namespace Interview

/-- The input is these lines. Each ends with a line feed and holds no other, but the last one may
    have none and is not empty then. -/
inductive TypedLines : List UInt8 → List (List UInt8) → Prop
  | done : TypedLines [] []
  | last {line : List UInt8} : line ≠ [] → 10 ∉ line → TypedLines line [line]
  | more {line rest : List UInt8} {ls : List (List UInt8)} : 10 ∉ line → TypedLines rest ls →
      TypedLines (line ++ 10 :: rest) ((line ++ [10]) :: ls)

/-- The line is this answer with line feeds and carriage returns behind it, and the answer ends with
    none of these. -/
def HoldsAnswer (line : List UInt8) (answer : String) : Prop :=
  ∃ ending : String, line = encodeText (answer ++ ending) ∧
    (∀ c ∈ ending.toList, c = '\n' ∨ c = '\r') ∧
    ∀ c ∈ answer.toList.getLast?, c ≠ '\n' ∧ c ≠ '\r'

/-! ## Lines of the input -/

/-- The first line is the one that is cut off, and the others are what is left. -/
theorem TypedLines.splitLine {input line : List UInt8} {ls : List (List UInt8)}
    (h : TypedLines input (line :: ls)) :
    ∃ rest, splitLine input = (line, rest) ∧ line ≠ [] ∧ TypedLines rest ls := by
  cases h with
  | last hne hfeed => exact ⟨[], splitLine_of_not_mem hfeed, hne, .done⟩
  | more hfeed hrest => exact ⟨_, splitLine_append hfeed _, by simp, hrest⟩

theorem TypedLines.eq_nil {input : List UInt8} (h : TypedLines input []) : input = [] := by
  cases h
  rfl

theorem exists_typedLines (input : List UInt8) : ∃ ls, TypedLines input ls := by
  induction h : input.length using Nat.strongRecOn generalizing input with
  | ind n ih =>
    by_cases hfeed : 10 ∈ input
    · obtain ⟨line, rest, rfl, hline⟩ := List.eq_append_cons_of_mem hfeed
      rw [List.length_append, List.length_cons] at h
      obtain ⟨ls, hls⟩ := ih rest.length (by omega) rest rfl
      exact ⟨_, .more hline hls⟩
    · by_cases hne : input = []
      · exact ⟨[], hne ▸ .done⟩
      · exact ⟨[input], .last hne hfeed⟩

/-- The lines of an input are determined. -/
theorem TypedLines.unique {input : List UInt8} {ls ms : List (List UInt8)}
    (hls : TypedLines input ls) (hms : TypedLines input ms) : ls = ms := by
  induction ls generalizing input ms with
  | nil =>
    obtain rfl := hls.eq_nil
    cases ms with
    | nil => rfl
    | cons m ms =>
      obtain ⟨_, hsplit, hne, _⟩ := hms.splitLine
      exact absurd (congrArg Prod.fst hsplit).symm hne
  | cons l ls ih =>
    obtain ⟨rest, hsplit, hne, hrest⟩ := hls.splitLine
    cases ms with
    | nil =>
      obtain rfl := hms.eq_nil
      exact absurd (congrArg Prod.fst hsplit).symm hne
    | cons m ms =>
      obtain ⟨rest', hsplit', _, hrest'⟩ := hms.splitLine
      rw [hsplit] at hsplit'
      obtain ⟨rfl, rfl⟩ := Prod.mk.inj hsplit'
      rw [ih hrest hrest']

/-- Trimming the end of a line leaves the answer. -/
theorem holdsAnswer_trimLineEnd (text : String) :
    HoldsAnswer (encodeText text) (trimLineEnd text) := by
  have hlist := toList_trimLineEnd text
  refine ⟨String.ofList (text.toList.rtakeWhile isEnding), ?_, ?_, ?_⟩
  · refine congrArg encodeText ?_
    rw [← String.toList_inj, String.toList_append, hlist, String.toList_ofList,
      List.rdropWhile_append_rtakeWhile]
  · intro c hc
    rw [String.toList_ofList] at hc
    have hending := List.mem_rtakeWhile_imp hc
    rwa [isEnding, Bool.or_eq_true, beq_iff_eq, beq_iff_eq] at hending
  · intro c hc
    rw [hlist] at hc
    obtain ⟨hne, rfl⟩ := List.mem_getLast?_eq_getLast hc
    have hlast := List.rdropWhile_last_not isEnding text.toList hne
    rwa [isEnding, Bool.or_eq_true, beq_iff_eq, beq_iff_eq, not_or] at hlast

/-! ## Asking -/

/-- What is shown with these prompts. -/
def questions (ps : List Prompt) : String := String.join (ps.map Prompt.question)

theorem questions_cons (p : Prompt) (ps : List Prompt) :
    questions (p :: ps) = p.question ++ questions ps := by
  rw [questions, List.map_cons, String.join_cons]
  rfl

/-- Lines that are texts are the answers; each prompt without a line is answered by the empty text,
    and only the first of these is shown. -/
theorem ask_of_texts {ps : List Prompt} {input : List UInt8} {ls : List (List UInt8)}
    (hls : TypedLines input ls) (htexts : ∀ l ∈ ls.take ps.length, IsText l) (first : Nat) :
    ∃ given, List.Forall₂ HoldsAnswer (ls.take ps.length) given ∧ ask (ps.zipIdx first) input =
      { shown := questions (ps.take (ls.length + 1))
        answers := .ok (given ++ List.replicate (ps.length - ls.length) "")
        exhausted := decide (ls.length < ps.length) } := by
  induction ps generalizing input ls first with
  | nil => exact ⟨[], by rw [List.length_nil, List.take_zero]; exact .nil, by
      rw [List.zipIdx_nil, ask, List.take_nil]; simp [questions]⟩
  | cons p ps ih =>
    rw [List.zipIdx_cons]
    cases ls with
    | nil =>
      obtain rfl := hls.eq_nil
      refine ⟨[], by rw [List.take_nil]; exact .nil, ?_⟩
      rw [ask_used_up rfl]
      simp [questions, List.map_const', List.replicate_succ]
    | cons line ls =>
      obtain ⟨rest, hsplit, hne, hrest⟩ := hls.splitLine
      rw [List.length_cons, List.take_succ_cons] at htexts
      obtain ⟨⟨text, rfl⟩, htail⟩ := List.forall_mem_cons.mp htexts
      obtain ⟨given, hgiven, hask⟩ := ih hrest htail (first + 1)
      refine ⟨trimLineEnd text :: given, .cons (holdsAnswer_trimLineEnd text) hgiven, ?_⟩
      rw [ask_line hsplit hne (decodeText_encodeText text), hask]
      simp [questions_cons, Except.map]

/-- The first line that is no text ends the interview at its prompt. -/
theorem ask_of_no_text {before after : List (List UInt8)} {line : List UInt8}
    (htexts : ∀ l ∈ before, IsText l) (hline : ¬IsText line) {ps : List Prompt}
    {input : List UInt8} (hls : TypedLines input (before ++ line :: after))
    (hlen : before.length < ps.length) (first : Nat) :
    ask (ps.zipIdx first) input =
      { shown := questions (ps.take (before.length + 1))
        answers := .error (.unreadableAnswer (first + before.length) .notUtf8)
        exhausted := false } := by
  induction before generalizing ps input first with
  | nil =>
    obtain ⟨p, ps, rfl⟩ := List.exists_cons_of_length_pos hlen
    obtain ⟨rest, hsplit, hne, _⟩ := hls.splitLine
    rw [List.zipIdx_cons, ask_unreadable hsplit hne (decodeText_of_not_isText hline)]
    simp [questions]
  | cons l before ih =>
    obtain ⟨p, ps, rfl⟩ := List.exists_cons_of_length_pos (Nat.zero_lt_of_lt hlen)
    obtain ⟨⟨text, rfl⟩, htail⟩ := List.forall_mem_cons.mp htexts
    obtain ⟨rest, hsplit, hne, hrest⟩ := hls.splitLine
    rw [List.zipIdx_cons, ask_line hsplit hne (decodeText_encodeText text),
      ih htail hrest (Nat.lt_of_succ_lt_succ hlen) (first + 1)]
    simp [questions_cons, Except.map, Nat.add_assoc, Nat.add_comm 1]

/-- Inputs that agree in the lines of the prompts are read alike. -/
theorem ask_congr {ps : List (Prompt × Nat)} {input input' : List UInt8} {ls ls' : List (List UInt8)}
    (hls : TypedLines input ls) (hls' : TypedLines input' ls')
    (h : ls'.take ps.length = ls.take ps.length) : ask ps input' = ask ps input := by
  induction ps generalizing input input' ls ls' with
  | nil => rw [ask, ask]
  | cons p ps ih =>
    obtain ⟨p, number⟩ := p
    rw [List.length_cons] at h
    cases ls with
    | nil =>
      obtain rfl : ls' = [] := by simpa using h
      rw [hls.eq_nil, hls'.eq_nil]
    | cons line ls =>
      cases ls' with
      | nil => exact absurd h (by simp)
      | cons line' ls' =>
        obtain ⟨rfl, htail⟩ := List.cons.inj h
        obtain ⟨rest, hsplit, hne, hrest⟩ := hls.splitLine
        obtain ⟨rest', hsplit', _, hrest'⟩ := hls'.splitLine
        cases htext : decodeText line' with
        | ok text => rw [ask_line hsplit hne htext, ask_line hsplit' hne htext, ih hrest hrest' htail]
        | error e => rw [ask_unreadable hsplit hne htext, ask_unreadable hsplit' hne htext]

end Interview

namespace Sheet

open Interview

/-- Title and description with the line breaks behind them, and then the first prompts, each with
    its placeholder in brackets if it has one. -/
def shownUpTo (s : Sheet) (count : Nat) : String :=
  (if s.title = "" then "" else s.title ++ "\n") ++
    (if s.description = "" then "" else s.description ++ "\n\n") ++
    String.join ((s.prompts.take count).map fun p =>
      if p.placeholder = "" then p.label ++ " " else p.label ++ " [" ++ p.placeholder ++ "] ")

theorem opening_append_questions (s : Sheet) (count : Nat) :
    s.opening ++ questions (s.prompts.take count) = s.shownUpTo count := by
  have hquestion : Prompt.question = fun p : Prompt =>
      if p.placeholder = "" then p.label ++ " " else p.label ++ " [" ++ p.placeholder ++ "] " := by
    funext p
    by_cases h : p.placeholder = "" <;> simp [Prompt.question, Prompt.hasPlaceholder, h]
  rw [questions, hquestion]
  rfl

/-- The input is cut into lines in one way. If those of the prompts are texts, there is one answer
    for each prompt: its line without line feeds and carriage returns at the end, and the empty text
    where there is no line; the prompts are shown up to the first one without a line. Otherwise the
    first line that is no text is blamed under the number of its prompt, which is the last one shown.
    Lines behind that of the last prompt change nothing. -/
theorem interview_reads_lines (s : Sheet) (input : List UInt8) :
    ∃ ls, TypedLines input ls ∧ (∀ ms, TypedLines input ms → ms = ls) ∧
      ((∀ l ∈ ls.take s.prompts.length, IsText l) → ∃ answers given,
        (s.interview input).answers = .ok answers ∧ answers.length = s.prompts.length ∧
        answers = given ++ List.replicate (s.prompts.length - ls.length) "" ∧
        List.Forall₂ HoldsAnswer (ls.take s.prompts.length) given ∧
        (s.interview input).shown = s.shownUpTo (min s.prompts.length (ls.length + 1)) ∧
        (s.interview input).exhausted = decide (ls.length < s.prompts.length)) ∧
      (∀ before line after, ls = before ++ line :: after → before.length < s.prompts.length →
        (∀ l ∈ before, IsText l) → ¬IsText line → ∃ failure,
        (s.interview input).answers = .error failure ∧ failure.kind = .io ∧
        failure.message = "I/O error: " ++ ("failed to read answer " ++
          decimal (before.length + 1) ++ ": " ++ "stream did not contain valid UTF-8") ∧
        (s.interview input).shown = s.shownUpTo (before.length + 1)) ∧
      ∀ input' ls', TypedLines input' ls' →
        ls'.take s.prompts.length = ls.take s.prompts.length →
        s.interview input' = s.interview input := by
  obtain ⟨ls, hls⟩ := exists_typedLines input
  refine ⟨ls, hls, fun ms hms => hms.unique hls, fun htexts => ?_, ?_, fun input' ls' hls' h => ?_⟩
  · obtain ⟨given, hgiven, hask⟩ := ask_of_texts hls htexts 1
    rw [interview, numbered, hask]
    refine ⟨_, given, rfl, ?_, rfl, hgiven, ?_, rfl⟩
    · rw [List.length_append, List.length_replicate, ← hgiven.length_eq, List.length_take]
      omega
    · rw [← opening_append_questions, List.take_eq_take_min, Nat.min_comm]
  · rintro before line after rfl hlen htexts hline
    have hask := ask_of_no_text htexts hline hls hlen 1
    rw [Nat.add_comm 1] at hask
    refine ⟨.unreadableAnswer (before.length + 1) .notUtf8, ?_, rfl, rfl, ?_⟩
    · rw [interview, numbered, hask]
    · rw [interview, numbered, hask, ← opening_append_questions]
  · rw [interview, interview, ask_congr hls hls' (by rwa [numbered, List.length_zipIdx])]

/-- The input ends at the second prompt, which is still shown; the third one is not. -/
example :
    let record := interview { prompts := [⟨"A", ""⟩, ⟨"B", "x"⟩, ⟨"C", ""⟩] } (encodeText "a\r\n")
    record.shown = "A B [x] " ∧ record.answers = .ok ["a", "", ""] := by
  decide +kernel

end Sheet

end AskSheet
