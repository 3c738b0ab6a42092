/-
  Writing scripts. `Sheet.source` is a script that tells and asks what a sheet says: a documentation
  block with title and description, then a line with a call for each prompt. Scanning it gives the
  sheet back (`ofScript_source`), provided that every text can stand where it is put
  (`Sheet.Writable`).
-/
import AskSheet.Proofs.Call.Spelling
import AskSheet.Proofs.Prompt.Writing
import AskSheet.Proofs.Script.DocBlock
import AskSheet.Sheet
import Mathlib.Data.List.Forall2
import Mathlib.Data.List.Infix

namespace AskSheet

open Text

/-- Three quotes, which start and end a documentation block. -/
def Script.tripleQuote : List Char := ['"', '"', '"']

/-- Text that a documentation block holds as it is: it does not end the block and makes no call. -/
structure BlockText (s : String) : Prop where
  trimmed : trim s = s
  noReturn : '\r' ∉ s.toList
  noQuotes : ¬Script.tripleQuote <:+: s.toList
  noCall : ¬Script.Call.opening <:+: s.toList

instance (s : String) : Decidable (BlockText s) :=
  decidable_of_iff
    (trim s = s ∧ '\r' ∉ s.toList ∧ ¬Script.tripleQuote <:+: s.toList ∧
      ¬Script.Call.opening <:+: s.toList)
    ⟨fun ⟨ht, hr, hq, hc⟩ => ⟨ht, hr, hq, hc⟩, fun ⟨ht, hr, hq, hc⟩ => ⟨ht, hr, hq, hc⟩⟩

/-- A quote that can stand around a prompt. -/
def Quotes (q : Char) (p : Prompt) : Prop :=
  (q = '"' ∨ q = '\'') ∧ q ∉ p.label.toList ∧ q ∉ p.placeholder.toList

instance (q : Char) (p : Prompt) : Decidable (Quotes q p) := inferInstanceAs (Decidable (_ ∧ _))

/-- A prompt that a call can hold: on one line, and the placeholder closes where it ends. -/
structure Prompt.Writable (p : Prompt) : Prop where
  label_trimmed : trim p.label = p.label
  label_line : '\n' ∉ p.label.toList
  placeholder_trimmed : trim p.placeholder = p.placeholder
  placeholder_line : '\n' ∉ p.placeholder.toList
  closing_guarded : Prompt.Guarded ']' p.placeholder.toList
  end_unguarded : p.placeholder.toList.getLast? ≠ some '\\'
  quotable : ∃ q, Quotes q p

theorem exists_quotes_iff {p : Prompt} : (∃ q, Quotes q p) ↔ Quotes '"' p ∨ Quotes '\'' p := by
  constructor
  · rintro ⟨q, hq⟩
    rcases hq.1 with rfl | rfl
    · exact Or.inl hq
    · exact Or.inr hq
  · rintro (h | h)
    · exact ⟨_, h⟩
    · exact ⟨_, h⟩

instance (p : Prompt) : Decidable p.Writable :=
  decidable_of_iff
    ((trim p.label = p.label ∧ '\n' ∉ p.label.toList) ∧
      (trim p.placeholder = p.placeholder ∧ '\n' ∉ p.placeholder.toList ∧
        Prompt.Guarded ']' p.placeholder.toList ∧ p.placeholder.toList.getLast? ≠ some '\\') ∧
      (Quotes '"' p ∨ Quotes '\'' p))
    ⟨fun ⟨⟨hl, hn⟩, ⟨hp, hpn, hg, he⟩, hq⟩ => ⟨hl, hn, hp, hpn, hg, he, exists_quotes_iff.mpr hq⟩,
      fun ⟨hl, hn, hp, hpn, hg, he, hq⟩ => ⟨⟨hl, hn⟩, ⟨hp, hpn, hg, he⟩, exists_quotes_iff.mp hq⟩⟩

structure Sheet.Writable (s : Sheet) : Prop where
  title : BlockText s.title
  title_line : '\n' ∉ s.title.toList
  description : BlockText s.description
  description_of_title : s.title = "" → s.description = ""
  prompts : ∀ p ∈ s.prompts, p.Writable

instance (s : Sheet) : Decidable s.Writable :=
  decidable_of_iff
    (BlockText s.title ∧ '\n' ∉ s.title.toList ∧ BlockText s.description ∧
      (s.title = "" → s.description = "") ∧ ∀ p ∈ s.prompts, p.Writable)
    ⟨fun ⟨ht, hn, hd, he, hp⟩ => ⟨ht, hn, hd, he, hp⟩,
      fun ⟨ht, hn, hd, he, hp⟩ => ⟨ht, hn, hd, he, hp⟩⟩

namespace Script

/-- The documentation block with this title and description. -/
def block (title description : String) : List Char :=
  tripleQuote ++ '\n' :: (title.toList ++
    '\n' :: (description.toList ++ '\n' :: (tripleQuote ++ ['\n'])))

/-- The line that asks a prompt. -/
def callLine (q : Char) (p : Prompt) : List Char :=
  Call.opening ++ q :: (p.written ++ [q, ')', '\n'])

end Script

/-- The script of a sheet, with these quotes around its prompts. -/
def Sheet.source (s : Sheet) (quotes : List Char) : String :=
  String.ofList (Script.block s.title s.description ++
    (List.zipWith Script.callLine quotes s.prompts).flatten)

namespace Script.Call

/-! ## Reading on -/

theorem literals_of_at? {cs lit rest : List Char} (h : at? cs = some (lit, rest)) :
    literals false cs = lit :: literals false rest := by
  cases cs with
  | nil => simp [at?, afterStart?] at h
  | cons c cs =>
    rw [literals, if_neg Bool.false_ne_true]
    split
    · rename_i lit' rest' h'
      rw [h, Option.some.injEq, Prod.mk.injEq] at h'
      rw [h'.1, h'.2]
    · rename_i h'
      rw [h] at h'
      exact absurd h' (by simp)

theorem literals_of_none {c : Char} {cs : List Char} (h : at? (c :: cs) = none) (inWord : Bool) :
    literals inWord (c :: cs) = literals (isWordChar c) cs := by
  cases inWord with
  | true => rw [literals, if_pos rfl]
  | false =>
    rw [literals, if_neg Bool.false_ne_true]
    split
    · rename_i h'
      rw [h] at h'
      exact absurd h' (by simp)
    · rfl

theorem opening_prefix_of_at? {cs lit rest : List Char} (h : at? cs = some (lit, rest)) :
    opening <+: cs := by
  obtain ⟨call, ⟨w₁, q, w₂, _, _, _, _, _, rfl⟩, rfl⟩ := spells_of_at? h
  simp only [List.append_assoc]
  exact List.prefix_append _ _

/-- Lines in which no call starts have no literals. -/
theorem literals_append_newline {cs : List Char} (h : ¬opening <:+: cs) (inWord : Bool)
    (rest : List Char) : literals inWord (cs ++ '\n' :: rest) = literals false rest := by
  have hnone : ∀ {ds : List Char}, ¬opening <:+: ds → at? (ds ++ '\n' :: rest) = none := by
    intro ds hds
    refine Option.eq_none_iff_forall_ne_some.mpr fun r hr => hds ?_
    exact (prefix_of_prefix_append_cons (opening_prefix_of_at? hr) (by decide)).isInfix
  induction cs generalizing inWord with
  | nil =>
    have hat := hnone h
    rw [List.nil_append] at hat ⊢
    rw [literals_of_none hat, isWordChar_newline]
  | cons c cs ih =>
    have hat := hnone h
    rw [List.cons_append] at hat ⊢
    rw [literals_of_none hat, ih fun hin => h (hin.trans (List.suffix_cons c cs).isInfix)]

/-- A line with a call gives the literal of that call. -/
theorem literals_callLine {q : Char} {p : Prompt} (hp : p.Writable) (hq : Quotes q p)
    (rest : List Char) :
    literals false (callLine q p ++ rest) = p.written :: literals false rest := by
  obtain ⟨hquote, hl, hph⟩ := hq
  have hfree : q ∉ ['\\', ' ', '[', ']'] := by rcases hquote with rfl | rfl <;> decide
  have hq : q ∉ p.written := Prompt.not_mem_written hfree hl hph
  have hn : '\n' ∉ p.written := Prompt.not_mem_written (by decide) hp.label_line hp.placeholder_line
  have hcall : Spells (opening ++ [] ++ q :: p.written ++ q :: [] ++ [')']) p.written :=
    ⟨[], q, [], by simp, by simp, hquote, hq, hn, rfl⟩
  have hline : callLine q p ++ rest =
      opening ++ [] ++ q :: p.written ++ q :: [] ++ [')'] ++ '\n' :: rest := by
    simp [callLine]
  have hfeed := literals_append_newline (show ¬opening <:+: [] by decide) false rest
  rw [List.nil_append] at hfeed
  rw [hline, literals_of_at? (at?_append hcall _), hfeed]

theorem literals_callLines {quotes : List Char} {ps : List Prompt} (hps : ∀ p ∈ ps, p.Writable)
    (hq : List.Forall₂ Quotes quotes ps) :
    literals false (List.zipWith callLine quotes ps).flatten = ps.map Prompt.written := by
  induction hq with
  | nil => rw [List.zipWith_nil_left, List.flatten_nil, literals]; rfl
  | @cons q p quotes ps hq _ ih =>
    rw [List.zipWith_cons_cons, List.flatten_cons, literals_callLine (hps p List.mem_cons_self) hq,
      ih fun p' hp' => hps p' (List.mem_cons_of_mem p hp'), List.map_cons]

theorem literals_block {title description : String} (ht : BlockText title)
    (hd : BlockText description) (rest : List Char) :
    literals false (block title description ++ rest) = literals false rest := by
  have hquotes : ¬opening <:+: tripleQuote := by decide
  have hlines : block title description ++ rest = tripleQuote ++ '\n' :: (title.toList ++
      '\n' :: (description.toList ++ '\n' :: (tripleQuote ++ '\n' :: rest))) := by
    simp [block]
  rw [hlines, literals_append_newline hquotes, literals_append_newline ht.noCall,
    literals_append_newline hd.noCall, literals_append_newline hquotes]

end Script.Call

namespace Sheet

open Script

theorem find?_source {s : Sheet} (hs : s.Writable) (quotes : List Char) :
    DocBlock.find? (s.source quotes) = some { title := s.title, description := s.description } := by
  have hline : '\n' ∉ ['"', '"', '"'] := by decide
  have hquotes :
      ¬['"', '"', '"'] <:+: '\n' :: (s.title.toList ++ '\n' :: s.description.toList) := by
    intro h
    rcases infix_of_infix_append_cons (a := []) h hline with hin | hin
    · exact absurd hin (by decide)
    · rcases infix_of_infix_append_cons hin hline with ht | hd
      · exact hs.title.noQuotes ht
      · exact hs.description.noQuotes hd
  have hempty : s.title.toList = [] → s.description.toList = [] := by
    rw [String.toList_eq_nil_iff, String.toList_eq_nil_iff]
    exact hs.description_of_title
  have hsource : (s.source quotes).toList = '"' :: '"' :: '"' ::
      (('\n' :: (s.title.toList ++ '\n' :: s.description.toList)) ++ '\n' :: '"' :: '"' :: '"' ::
        ('\n' :: (List.zipWith callLine quotes s.prompts).flatten)) := by
    simp [source, block, tripleQuote]
  rw [DocBlock.find?, hsource, DocBlock.content?_written hquotes, Option.map_some, List.cons_append,
    List.append_assoc, List.cons_append,
    DocBlock.ofContent_written (trim_eq_self_iff.mp hs.title.trimmed)
      (trim_eq_self_iff.mp hs.description.trimmed) hs.title_line hs.title.noReturn
      hs.description.noReturn hempty,
    String.ofList_toList, String.ofList_toList]

theorem literals_source {s : Sheet} (hs : s.Writable) {quotes : List Char}
    (hq : List.Forall₂ Quotes quotes s.prompts) :
    literals (s.source quotes) = s.prompts.map fun p => String.ofList p.written := by
  rw [literals, source, String.toList_ofList, Call.literals_block hs.title hs.description,
    Call.literals_callLines hs.prompts hq, List.map_map]
  rfl

/-- The prompts of a sheet that can be written have quotes around them. -/
theorem exists_quotes {ps : List Prompt} (h : ∀ p ∈ ps, p.Writable) :
    ∃ quotes, List.Forall₂ Quotes quotes ps := by
  induction ps with
  | nil => exact ⟨[], List.Forall₂.nil⟩
  | cons p ps ih =>
    obtain ⟨q, hq⟩ := (h p List.mem_cons_self).quotable
    obtain ⟨quotes, hquotes⟩ := ih fun p' hp' => h p' (List.mem_cons_of_mem p hp')
    exact ⟨q :: quotes, List.Forall₂.cons hq hquotes⟩

/-- A sheet that can be written has a script, and every script that it has gives it back. -/
theorem ofScript_source (s : Sheet) (hs : s.Writable) :
    (∃ quotes, List.Forall₂ Quotes quotes s.prompts) ∧
      ∀ quotes, List.Forall₂ Quotes quotes s.prompts → Sheet.ofScript (s.source quotes) = s := by
  refine ⟨exists_quotes hs.prompts, fun quotes hq => ?_⟩
  have hread : ∀ p ∈ s.prompts, (Prompt.parse ∘ fun p => String.ofList p.written) p = id p := by
    intro p hp
    have hp := hs.prompts p hp
    rw [Function.comp_apply, id_eq, Prompt.parse_written hp.label_trimmed hp.placeholder_trimmed
      hp.closing_guarded hp.end_unguarded]
  have hprompts :
      (s.prompts.map fun p => String.ofList p.written).map Prompt.parse = s.prompts := by
    rw [List.map_map, List.map_congr_left hread, List.map_id]
  rw [ofScript, find?_source hs, literals_source hs hq, hprompts]
  rfl

/-- A sheet whose texts look like calls, blocks and brackets. -/
def nested : Sheet where
  title := "Nested '''quotes'''"
  description := "Reads input (and more).\n\n  A \"\" pair"
  prompts := [{ label := "a[0] \\[ input('b') '''c''':", placeholder := "x [\\]y" },
    { label := "say \"hi\" \\", placeholder := "" }]

/-- The texts of `nested` stay apart from the script around them. -/
theorem ofScript_source_nested :
    nested.Writable ∧ List.Forall₂ Quotes ['"', '\''] nested.prompts ∧
      Sheet.ofScript (nested.source ['"', '\'']) = nested := by
  have hs : nested.Writable := by decide +kernel
  have hq : List.Forall₂ Quotes ['"', '\''] nested.prompts :=
    List.Forall₂.cons (by decide +kernel) (List.Forall₂.cons (by decide +kernel) List.Forall₂.nil)
  exact ⟨hs, hq, (ofScript_source nested hs).2 _ hq⟩

end Sheet

end AskSheet
