/-
  Padding and filling, in any order and any number of times. A step pads the sequence to a length or
  gives empty answers their placeholders (`Step`). Filling before padding leaves the later gaps
  empty, so what a run ends with depends on how long the sequence was at each filling (`Filled`).

  * `length_run`: a run ends with the greatest length that was asked for.
  * `answerAt_run`: an answer that was there stays; an empty one becomes the placeholder of its
    prompt if it was in reach of a filling.
  * `run_steps`: both, what each step reports and keeps, and the sequence that all runs end with
    that pad to the number of prompts and fill afterwards.
-/
import AskSheet.Proofs.Answers.Collect
import Mathlib.Data.List.Infix

namespace AskSheet.Answers

/-! ## One filling -/

/-- The placeholder of the prompt with this number; empty beyond the last prompt. -/
def placeholderAt (ps : List Prompt) (n : Nat) : String := (ps[n - 1]?).elim "" Prompt.placeholder

theorem placeholderAt_of_length_lt {ps : List Prompt} {n : Nat} (h : ps.length < n) :
    placeholderAt ps n = "" := by
  rw [placeholderAt, List.getElem?_eq_none (by omega), Option.elim_none]

theorem getElem?_fillDefaults (as : List String) (ps : List Prompt) (i : Nat) :
    (fillDefaults as ps)[i]? =
      as[i]?.map fun a => if a = "" then (ps[i]?).elim "" Prompt.placeholder else a := by
  induction as generalizing ps i with
  | nil => rfl
  | cons a as ih =>
    cases ps with
    | nil =>
      rw [fillDefaults]
      · cases (a :: as)[i]? with
        | none => rfl
        | some b => by_cases hb : b = "" <;> simp [hb]
      · simp
    | cons p ps =>
      rw [fillDefaults]
      cases i with
      | zero => rfl
      | succ i => exact ih ps i

theorem answerAt_fillDefaults (as : List String) (ps : List Prompt) (n : Nat) (hn : 1 ≤ n) :
    answerAt (fillDefaults as ps) n =
      if n ≤ as.length ∧ answerAt as n = "" then placeholderAt ps n else answerAt as n := by
  rw [answerAt, answerAt, getElem?_fillDefaults]
  by_cases hlen : n ≤ as.length
  · have hget : as[n - 1]? = some as[n - 1] := List.getElem?_eq_getElem (by omega)
    simp only [hget, Option.map_some, Option.getD_some, hlen, true_and]
    rfl
  · have hnone : as[n - 1]? = none := List.getElem?_eq_none (by omega)
    rw [if_neg (fun h => hlen h.1), hnone, Option.map_none]

/-- Filling twice is filling once. -/
theorem fillDefaults_fillDefaults (as : List String) (ps : List Prompt) :
    fillDefaults (fillDefaults as ps) ps = fillDefaults as ps := by
  refine List.ext_getElem? fun i => ?_
  rw [getElem?_fillDefaults, getElem?_fillDefaults, Option.map_map]
  congr 1
  funext a
  rw [Function.comp_apply]
  by_cases ha : a = ""
  · rw [if_pos ha, ite_self]
  · rw [if_neg ha, if_neg ha]

/-- What is in a filled sequence was there before or is a placeholder. -/
theorem mem_fillDefaults {as : List String} {ps : List Prompt} {a : String}
    (h : a ∈ fillDefaults as ps) : a ∈ as ∨ ∃ p ∈ ps, p.placeholder = a := by
  obtain ⟨i, hi⟩ := List.mem_iff_getElem?.mp h
  rw [getElem?_fillDefaults, Option.map_eq_some_iff] at hi
  obtain ⟨b, hb, hab⟩ := hi
  have hmem : b ∈ as := List.mem_of_getElem? hb
  split at hab
  · rename_i hempty
    cases hp : ps[i]? with
    | none =>
      rw [hp, Option.elim_none] at hab
      rw [← hab, ← hempty]
      exact Or.inl hmem
    | some p =>
      rw [hp, Option.elim_some] at hab
      exact Or.inr ⟨p, List.mem_of_getElem? hp, hab⟩
  · rw [← hab]
    exact Or.inl hmem

/-! ## Runs -/

/-- What can be done to a sequence: pad it to a length, or fill in placeholders. -/
inductive Step where
  | align (expected : Nat)
  | fill
  deriving DecidableEq, Repr

/-- The length that a step asks for. -/
def Step.expected? : Step → Option Nat
  | align expected => some expected
  | fill => none

/-- The sequence after one step. -/
def Step.apply (ps : List Prompt) (answers : List String) : Step → List String
  | align expected => (Answers.align answers expected).answers
  | fill => fillDefaults answers ps

/-- The sequence after the steps. -/
def run (ps : List Prompt) (answers : List String) (steps : List Step) : List String :=
  steps.foldl (Step.apply ps) answers

/-- The greatest of a length and the lengths that the steps ask for. -/
def reach (length : Nat) (steps : List Step) : Nat := (steps.filterMap Step.expected?).foldl max length

/-- A filling came when the sequence had an answer with this number. -/
def Filled (ps : List Prompt) (answers : List String) (steps : List Step) (n : Nat) : Prop :=
  ∃ before, before ++ [.fill] <+: steps ∧ n ≤ (run ps answers before).length

instance (ps : List Prompt) (answers : List String) (steps : List Step) (n : Nat) :
    Decidable (Filled ps answers steps n) :=
  decidable_of_iff
    (∃ before ∈ steps.inits, before ++ [.fill] <+: steps ∧ n ≤ (run ps answers before).length)
    ⟨fun ⟨before, _, h⟩ => ⟨before, h⟩, fun ⟨before, hpre, hn⟩ =>
      ⟨before, (List.mem_inits _ _).mpr ((List.prefix_append before [.fill]).trans hpre), hpre, hn⟩⟩

/-- The steps pad to the number of prompts and fill at some time after it, and nothing is padded
    beyond what that takes. -/
def Completes (ps : List Prompt) (answers : List String) (steps : List Step) : Prop :=
  (∃ before between, before ++ .align ps.length :: between ++ [.fill] <+: steps) ∧
    ∀ expected, .align expected ∈ steps → expected ≤ max answers.length ps.length

variable (ps : List Prompt) (as : List String)

theorem run_append (ss ts : List Step) : run ps as (ss ++ ts) = run ps (run ps as ss) ts := by
  rw [run, List.foldl_append]
  rfl

theorem run_concat (ss : List Step) (s : Step) :
    run ps as (ss ++ [s]) = s.apply ps (run ps as ss) := by
  rw [run_append]
  rfl

theorem reach_concat (length : Nat) (ss : List Step) (s : Step) :
    reach length (ss ++ [s]) = max (reach length ss) (s.expected?.getD 0) := by
  rw [reach, List.filterMap_append, List.foldl_append]
  cases s with
  | align expected => rfl
  | fill => exact (Nat.max_zero _).symm

theorem length_apply (s : Step) : (s.apply ps as).length = max as.length (s.expected?.getD 0) := by
  cases s with
  | align expected => exact length_pad as expected
  | fill => exact (length_fillDefaults as ps).trans (Nat.max_zero _).symm

/-- A step keeps what is not empty. -/
theorem answerAt_apply_of_ne {n : Nat} (hn : 1 ≤ n) (h : answerAt as n ≠ "") (s : Step) :
    answerAt (s.apply ps as) n = answerAt as n := by
  cases s with
  | align expected => exact answerAt_pad as expected n
  | fill =>
    rw [Step.apply, answerAt_fillDefaults as ps n hn, if_neg fun hempty => h hempty.2]

/-- A run ends with the greatest length that was there or asked for. -/
theorem length_run (steps : List Step) : (run ps as steps).length = reach as.length steps := by
  induction steps using List.reverseRecOn with
  | nil => rfl
  | append_singleton ss s ih => rw [run_concat, length_apply, ih, reach_concat]

variable {ps as}

theorem filled_concat {ss : List Step} {s : Step} {n : Nat} :
    Filled ps as (ss ++ [s]) n ↔ Filled ps as ss n ∨ s = .fill ∧ n ≤ (run ps as ss).length := by
  constructor
  · rintro ⟨before, hpre, hn⟩
    rcases List.prefix_concat_iff.mp hpre with heq | hpre
    · obtain ⟨rfl, hs⟩ := List.append_inj' heq rfl
      exact Or.inr ⟨(List.singleton_inj.mp hs).symm, hn⟩
    · exact Or.inl ⟨before, hpre, hn⟩
  · rintro (⟨before, hpre, hn⟩ | ⟨rfl, hn⟩)
    · exact ⟨before, hpre.trans (List.prefix_append ss [s]), hn⟩
    · exact ⟨ss, List.prefix_rfl, hn⟩

/-- The answer at a position after a run. -/
theorem answerAt_run {n : Nat} (hn : 1 ≤ n) (steps : List Step) :
    answerAt (run ps as steps) n =
      if answerAt as n ≠ "" then answerAt as n
      else if Filled ps as steps n then placeholderAt ps n else "" := by
  -- from the last step, since a filling reaches as far as all the steps before it have led
  induction steps using List.reverseRecOn with
  | nil =>
    have hnone : ¬Filled ps as [] n := fun ⟨before, hpre, _⟩ => by
      simpa using List.prefix_nil.mp hpre
    rw [if_neg hnone]
    split
    · rfl
    · rename_i h
      exact not_not.mp h
  | append_singleton ss s ih =>
    rw [run_concat]
    by_cases h : answerAt as n = ""
    · rw [if_neg (not_not.mpr h)] at ih ⊢
      cases s with
      | align expected =>
        have hsame : Filled ps as (ss ++ [.align expected]) n ↔ Filled ps as ss n := by
          simp [filled_concat]
        simp only [hsame, ← ih]
        exact answerAt_pad _ expected n
      | fill =>
        rw [Step.apply, answerAt_fillDefaults _ ps n hn, ih]
        by_cases hfilled : Filled ps as ss n
        · rw [if_pos hfilled, if_pos (filled_concat.mpr (Or.inl hfilled)), ite_self]
        · rw [if_neg hfilled]
          by_cases hlen : n ≤ (run ps as ss).length
          · rw [if_pos ⟨hlen, rfl⟩, if_pos (filled_concat.mpr (Or.inr ⟨rfl, hlen⟩))]
          · have hnone : ¬Filled ps as (ss ++ [.fill]) n := fun hf =>
              (filled_concat.mp hf).elim hfilled fun hfill => hlen hfill.2
            rw [if_neg fun hempty => hlen hempty.1, if_neg hnone]
    · rw [if_pos h] at ih ⊢
      rw [answerAt_apply_of_ne ps _ hn (by rwa [ih]) s, ih]

/-! ## Runs that complete a sequence -/

theorem reach_le_iff {length k : Nat} {steps : List Step} :
    reach length steps ≤ k ↔ length ≤ k ∧ ∀ expected, .align expected ∈ steps → expected ≤ k := by
  induction steps using List.reverseRecOn with
  | nil => simp [reach]
  | append_singleton ss s ih =>
    rw [reach_concat, Nat.max_le, ih]
    cases s with
    | align expected =>
      simp only [Step.expected?, Option.getD_some, List.mem_append, List.mem_singleton,
        Step.align.injEq, or_imp, forall_and, forall_eq, and_assoc]
    | fill => simp [Step.expected?]

theorem completes_align_fill : Completes ps as [.align ps.length, .fill] := by
  refine ⟨⟨[], [], List.prefix_rfl⟩, fun expected h => ?_⟩
  obtain rfl : expected = ps.length := by simpa using h
  exact Nat.le_max_right _ _

variable {steps : List Step}

theorem Completes.length_run (h : Completes ps as steps) :
    (run ps as steps).length = max as.length ps.length := by
  obtain ⟨⟨before, between, hpre⟩, hmost⟩ := h
  have hleast := reach_le_iff.mp (Nat.le_refl (reach as.length steps))
  have hexpected := hleast.2 ps.length (hpre.subset (by simp))
  have hbound := reach_le_iff.mpr ⟨Nat.le_max_left as.length ps.length, hmost⟩
  rw [Answers.length_run]
  exact Nat.le_antisymm hbound (Nat.max_le.mpr ⟨hleast.1, hexpected⟩)

theorem Completes.filled (h : Completes ps as steps) {n : Nat}
    (hn : n ≤ max as.length ps.length) : Filled ps as steps n := by
  obtain ⟨⟨before, between, hpre⟩, -⟩ := h
  refine ⟨before ++ .align ps.length :: between, hpre, Nat.le_trans hn ?_⟩
  rw [Answers.length_run]
  have hleast := reach_le_iff.mp
    (Nat.le_refl (reach as.length (before ++ .align ps.length :: between)))
  exact Nat.max_le.mpr ⟨hleast.1, hleast.2 ps.length (by simp)⟩

/-- All runs that complete a sequence end with the same answers. -/
theorem Completes.run_eq {ts : List Step} (h : Completes ps as steps) (ht : Completes ps as ts) :
    run ps as steps = run ps as ts := by
  refine ext_answerAt (by rw [h.length_run, ht.length_run]) fun n hn hlen => ?_
  rw [h.length_run] at hlen
  rw [answerAt_run hn, answerAt_run hn, if_pos (h.filled hlen), if_pos (ht.filled hlen)]

/-- Whatever steps a sequence goes through: its length is the greatest one that was there or asked
    for; an answer that was there stays, and an empty one becomes the placeholder of its prompt when
    a filling finds it, and only then. Padding reports what is missing and what is too much, no step
    shortens the sequence or changes an answer that is not empty, and all runs that complete the
    sequence end as padding to the number of prompts and filling does. -/
theorem run_steps (ps : List Prompt) (as : List String) (steps : List Step) :
    let final := run ps as steps
    final.length = reach as.length steps ∧
    (∀ n, 1 ≤ n → answerAt final n =
      if n ≤ as.length ∧ answerAt as n ≠ "" then answerAt as n
      else if n ≤ ps.length ∧ Filled ps as steps n then placeholderAt ps n else "") ∧
    (∀ expected, let aligned := align final expected
      aligned.padded = expected - reach as.length steps ∧
      aligned.surplus = reach as.length steps - expected ∧
      aligned.answers = run ps as (steps ++ [.align expected])) ∧
    (∀ s, final.length ≤ (run ps as (steps ++ [s])).length ∧
      ∀ n, 1 ≤ n → answerAt final n ≠ "" →
        answerAt (run ps as (steps ++ [s])) n = answerAt final n) ∧
    (Completes ps as steps → final = fillDefaults (align as ps.length).answers ps) := by
  refine ⟨length_run ps as steps, fun n hn => ?_, fun expected => ?_, fun s => ?_, fun h => ?_⟩
  · rw [answerAt_run hn]
    by_cases hempty : answerAt as n = ""
    · have hfree : ¬(n ≤ as.length ∧ answerAt as n ≠ "") := fun h => h.2 hempty
      rw [if_neg (not_not.mpr hempty), if_neg hfree]
      by_cases hprompt : n ≤ ps.length
      · simp only [hprompt, true_and]
      · have hbeyond : ¬(n ≤ ps.length ∧ Filled ps as steps n) := fun h => hprompt h.1
        rw [if_neg hbeyond, placeholderAt_of_length_lt (by omega), ite_self]
    · have hlen : n ≤ as.length := by
        by_contra hlen
        exact hempty (by rw [answerAt, List.getElem?_eq_none (by omega)]; rfl)
      rw [if_pos hempty, if_pos ⟨hlen, hempty⟩]
  · rw [← length_run ps as steps, run_concat]
    exact ⟨rfl, rfl, rfl⟩
  · rw [run_concat]
    refine ⟨?_, fun n hn h => answerAt_apply_of_ne ps _ hn h s⟩
    rw [length_apply]
    exact Nat.le_max_left _ _
  · exact h.run_eq completes_align_fill

/-- Filling before padding leaves a gap, which a later filling closes. -/
theorem run_steps_gap :
    let ps := [Prompt.mk "Name" "Bob", Prompt.mk "Age" "", Prompt.mk "City" "Paris"]
    run ps ["", "36"] [.fill, .align 3] = ["Bob", "36", ""] ∧
    Completes ps ["", "36"] [.fill, .align 3, .align 1, .fill] ∧
    run ps ["", "36"] [.fill, .align 3, .align 1, .fill] = ["Bob", "36", "Paris"] := by
  intro ps
  have h : Completes ps ["", "36"] [.fill, .align 3, .align 1, .fill] :=
    ⟨⟨[.fill], [.align 1], List.prefix_rfl⟩, by simp [ps]⟩
  exact ⟨by decide, h, (run_steps ps ["", "36"] _).2.2.2.2 h⟩

end AskSheet.Answers
