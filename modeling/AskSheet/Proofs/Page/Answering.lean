/-
  Answering a built-in page. Its fields come back in any order, mixed with fields that have no
  position, and the answers are collected in the order of the prompts, up to the highest position a
  key can denote (`answers_come_back`).
-/
import AskSheet.Proofs.Answers.Collect
import AskSheet.Proofs.Page.Attribute

namespace AskSheet.Page

open Answers Text

/-- The fields with these names and answers. -/
def filledIn (names answers : List String) : List Field := List.zipWith Field.mk names answers

theorem mem_filledIn {answers : List String} {f : Field} :
    f ∈ filledIn (numbers answers.length) answers ↔
      ∃ n, 1 ≤ n ∧ n ≤ answers.length ∧ f = { key := decimal n, value := answerAt answers n } := by
  have hlen : (filledIn (numbers answers.length) answers).length = answers.length := by
    rw [filledIn, numbers, List.length_zipWith, List.length_map, List.length_range', Nat.min_self]
  have hget : ∀ i (hi : i < (filledIn (numbers answers.length) answers).length),
      (filledIn (numbers answers.length) answers)[i] =
        { key := decimal (i + 1), value := answerAt answers (i + 1) } := by
    intro i hi
    have hi' : i < answers.length := hlen ▸ hi
    rw [answerAt_succ hi']
    simp only [filledIn, numbers, List.getElem_zipWith, List.getElem_map, List.getElem_range',
      Nat.one_mul, Nat.add_comm]
  rw [List.mem_iff_getElem]
  constructor
  · rintro ⟨i, hi, rfl⟩
    exact ⟨i + 1, by omega, by omega, hget i hi⟩
  · rintro ⟨n, h1, hn, rfl⟩
    obtain ⟨i, rfl⟩ : ∃ i, n = i + 1 := ⟨n - 1, by omega⟩
    exact ⟨i, by omega, hget i (by omega)⟩

section Filled

variable {answers : List String} {others fields : List Field}
  (hothers : ∀ f ∈ others, position? f.key = none)
  (hfields : fields.Perm (filledIn (numbers answers.length) answers ++ others))
include hfields

/-- Each prompt up to the highest position has a field that comes back for its number. -/
theorem exists_field {n : Nat} (h1 : 1 ≤ n) (hn : n ≤ answers.length) (hmax : n ≤ maxPosition) :
    ∃ f ∈ fields, position? f.key = some n ∧ f.value = answerAt answers n := by
  have hf := mem_filledIn.mpr ⟨n, h1, hn, rfl⟩
  refine ⟨_, hfields.mem_iff.mpr (List.mem_append_left others hf), ?_, rfl⟩
  rw [position?_decimal, if_pos ⟨h1, hmax⟩]

include hothers

/-- A field that comes back for a position holds the answer to the prompt with that number. -/
theorem value_of_position? {f : Field} {n : Nat} (hf : f ∈ fields) (h : position? f.key = some n) :
    n ≤ answers.length ∧ f.value = answerAt answers n := by
  rcases List.mem_append.mp (hfields.mem_iff.mp hf) with hfilled | hother
  · obtain ⟨m, hm1, hm, rfl⟩ := mem_filledIn.mp hfilled
    dsimp only at h ⊢
    rw [position?_decimal] at h
    split at h
    · obtain rfl : m = n := Option.some.inj h
      exact ⟨hm, rfl⟩
    · exact absurd h (by simp)
  · rw [hothers f hother] at h
    exact absurd h (by simp)

theorem length_collect_filledIn : (collect fields).length = min answers.length maxPosition := by
  refine Nat.le_antisymm (length_collect_le_iff.mpr ?_) ?_
  · intro f hf n hn
    have hlen := (value_of_position? hothers hfields hf hn).1
    have hmax := (position?_bounds hn).2
    omega
  · rcases Nat.eq_zero_or_pos (min answers.length maxPosition) with hzero | hpos
    · omega
    · obtain ⟨f, hf, hn, -⟩ :=
        exists_field hfields hpos (Nat.min_le_left _ _) (Nat.min_le_right _ _)
      exact length_collect_le_iff.mp (Nat.le_refl _) f hf _ hn

/-- The answers are collected in the order of the prompts, whatever order their fields come back
    in. -/
theorem collect_filledIn : collect fields = answers.take (min answers.length maxPosition) := by
  have hlen := length_collect_filledIn hothers hfields
  refine ext_answerAt ?_ fun n h1 hn => ?_
  · rw [hlen, List.length_take]
    omega
  · obtain ⟨f, hf, hpos, hvalue⟩ := exists_field hfields h1 (by omega) (by omega)
    have hcollect : answerAt (collect fields) n = f.value :=
      answerAt_collect_of_unique hf hpos fun g hg hgpos => by
        rw [(value_of_position? hothers hfields hg hgpos).2, hvalue]
    rw [hcollect, hvalue, answerAt, answerAt, List.getElem?_take_of_lt (by omega)]

end Filled

/-- A built-in page names its fields by the numbers of the prompts, whatever the texts of the sheet
    say. When the fields come back with answers, in any order and among fields without a position,
    the answers are collected in the order of the prompts, none beyond the highest position, and
    only missing ones are padded. -/
theorem answers_come_back (sheet : Sheet) (submit : String) :
    ∃ page, (FormTemplate.builtIn >>= fun template => render sheet template submit) = .ok page ∧
      fieldNames page = numbers sheet.prompts.length ∧
      ∀ (answers : List String) (others fields : List Field),
        answers.length = sheet.prompts.length →
        (∀ f ∈ others, position? f.key = none) →
        fields.Perm (filledIn (fieldNames page) answers ++ others) →
        let collected := collect fields
        let aligned := align collected sheet.prompts.length
        collected = answers.take (min sheet.prompts.length maxPosition) ∧
        aligned.surplus = 0 ∧
        aligned.padded = sheet.prompts.length - min sheet.prompts.length maxPosition ∧
        collected <+: aligned.answers ∧
        (sheet.prompts.length ≤ maxPosition → collected = answers ∧ aligned.answers = answers) := by
  have hnames := fieldNames_pageText sheet submit
  refine ⟨pageText sheet submit, ?_, hnames, ?_⟩
  · rw [builtIn_eq]
    exact render_standard sheet submit
  · intro answers others fields hlen hothers hfields
    rw [hnames, ← hlen] at hfields
    have hcollect := collect_filledIn hothers hfields
    have hcount := length_collect_filledIn hothers hfields
    dsimp only
    rw [← hlen]
    refine ⟨hcollect, ?_, ?_, List.prefix_append _ _, fun hmax => ?_⟩
    · show (collect fields).length - answers.length = 0
      omega
    · rw [align, hcount]
    · have hall : collect fields = answers := by
        rw [hcollect, Nat.min_eq_left hmax, List.take_length]
      refine ⟨hall, ?_⟩
      rw [align, pad, hall, Nat.sub_self, List.replicate_zero, List.append_nil]

/-- A sheet whose texts try to name fields: as markup, and as an attribute that the closing quote of
    the placeholder would complete. -/
def forging : Sheet where
  title := "\" name=\"9"
  prompts := [{ label := "<input name=\"2\">", placeholder := "\" name=\"7" },
    { label := " name=\"1\"", placeholder := "name=" }]

theorem answers_come_back_forging :
    ∃ page, (FormTemplate.builtIn >>= fun template => render forging template "name=") = .ok page ∧
      fieldNames page = ["1", "2"] ∧
      [⟨"2", "b"⟩, ⟨"submit", "name="⟩, ⟨"1", "a"⟩].Perm
        (filledIn (fieldNames page) ["a", "b"] ++ [⟨"submit", "name="⟩]) ∧
      collect [⟨"2", "b"⟩, ⟨"submit", "name="⟩, ⟨"1", "a"⟩] = ["a", "b"] := by
  obtain ⟨page, hpage, hnames, hround⟩ := answers_come_back forging "name="
  have hnumbers : fieldNames page = ["1", "2"] := by rw [hnames]; decide +kernel
  have hperm : [⟨"2", "b"⟩, ⟨"submit", "name="⟩, ⟨"1", "a"⟩].Perm
      (filledIn (fieldNames page) ["a", "b"] ++ [⟨"submit", "name="⟩]) := by
    rw [hnumbers]; decide +kernel
  have hothers : ∀ f ∈ [Field.mk "submit" "name="], position? f.key = none := by decide +kernel
  exact ⟨page, hpage, hnumbers, hperm, (hround ["a", "b"] _ _ rfl hothers hperm).1⟩

end AskSheet.Page
