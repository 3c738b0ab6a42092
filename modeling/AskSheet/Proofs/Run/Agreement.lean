/-
  Answers that are given on the command line and answers that are typed. The arguments `i=answer`
  make up the same sequence, in whatever order they stand, as a line for each prompt, which is empty
  where there is no argument (`align_collect_arguments`). So `collect` on a script prints what `ask`
  prints (`collect_agrees_with_ask`).
-/
import AskSheet.Proofs.Answers.Collect
import AskSheet.Proofs.Run.Replay

namespace AskSheet

open Text

/-! ## Arguments -/

/-- The field that stands in an argument is cut at the first `=`. -/
theorem Field.parse?_append {key : String} (h : '=' ∉ key.toList) (value : String) :
    Field.parse? (key ++ "=" ++ value) = some { key, value } := by
  have hspan : (key.toList ++ '=' :: value.toList).span (fun c => decide (c ≠ '=')) =
      (key.toList, '=' :: value.toList) := by
    have hkey : ∀ c ∈ key.toList, decide (c ≠ '=') = true := fun c hc =>
      decide_eq_true fun heq => h (heq ▸ hc)
    rw [List.span_eq_takeWhile_dropWhile, List.takeWhile_append_of_pos hkey,
      List.dropWhile_append_of_pos hkey]
    simp
  have hlist : (key ++ "=" ++ value).toList = key.toList ++ '=' :: value.toList := by
    rw [String.toList_append, String.toList_append, List.append_assoc]
    rfl
  rw [Field.parse?, hlist, hspan]
  show some (Field.mk (String.ofList key.toList) (String.ofList value.toList)) = _
  rw [String.ofList_toList, String.ofList_toList]

theorem Submission.ofArguments_of_isSome {args : List String}
    (h : ∀ arg ∈ args, (Field.parse? arg).isSome) :
    ofArguments args = .ok (args.filterMap Field.parse?) := by
  induction args with
  | nil => rfl
  | cons arg args ih =>
    obtain ⟨field, hfield⟩ := Option.isSome_iff_exists.mp (h arg List.mem_cons_self)
    rw [ofArguments, hfield, List.filterMap_cons_some hfield]
    dsimp only
    rw [ih fun a ha => h a (List.mem_cons_of_mem arg ha)]
    rfl

namespace Answers

/-- The arguments that give the prompts up to the `n`-th their answers, as far as they have one. -/
def arguments (answer? : Nat → Option String) (n : Nat) : List String :=
  (List.range' 1 n).filterMap fun i => (answer? i).map fun a => decimal i ++ "=" ++ a

/-- The lines that give the prompts up to the `n`-th their answers, empty where there is none. -/
def typed (answer? : Nat → Option String) (n : Nat) : List String :=
  (List.range' 1 n).map fun i => (answer? i).getD ""

theorem parse?_decimal (n : Nat) (answer : String) :
    Field.parse? (decimal n ++ "=" ++ answer) = some { key := decimal n, value := answer } :=
  Field.parse?_append (not_mem_decimal (by decide) n) answer

section Arguments

variable {answer? : Nat → Option String} {n : Nat} {args : List String}

theorem length_typed : (typed answer? n).length = n := by
  rw [typed, List.length_map, List.length_range']

theorem answerAt_typed {i : Nat} (h1 : 1 ≤ i) (hi : i ≤ n) :
    answerAt (typed answer? n) i = (answer? i).getD "" := by
  rw [answerAt, typed, List.getElem?_map, List.getElem?_range' (by omega), Option.map_some,
    Option.getD_some, Nat.one_mul, Nat.add_sub_cancel' h1]

theorem mem_arguments {arg : String} :
    arg ∈ arguments answer? n ↔
      ∃ i a, (1 ≤ i ∧ i ≤ n) ∧ answer? i = some a ∧ arg = decimal i ++ "=" ++ a := by
  simp only [arguments, List.mem_filterMap, List.mem_range'_1, Option.map_eq_some_iff]
  constructor
  · rintro ⟨i, hi, a, ha, rfl⟩
    exact ⟨i, a, by omega, ha, rfl⟩
  · rintro ⟨i, a, hi, ha, rfl⟩
    exact ⟨i, by omega, a, ha, rfl⟩

variable (hargs : args.Perm (arguments answer? n))
include hargs

theorem ofArguments_arguments :
    Submission.ofArguments args = .ok (args.filterMap Field.parse?) := by
  refine Submission.ofArguments_of_isSome fun arg harg => ?_
  obtain ⟨i, a, -, -, rfl⟩ := mem_arguments.mp (hargs.mem_iff.mp harg)
  rw [parse?_decimal, Option.isSome_some]

theorem mem_filterMap_arguments {f : Field} :
    f ∈ args.filterMap Field.parse? ↔
      ∃ i a, (1 ≤ i ∧ i ≤ n) ∧ answer? i = some a ∧ f = { key := decimal i, value := a } := by
  rw [List.mem_filterMap]
  constructor
  · rintro ⟨arg, harg, hf⟩
    obtain ⟨i, a, hi, ha, rfl⟩ := mem_arguments.mp (hargs.mem_iff.mp harg)
    rw [parse?_decimal] at hf
    exact ⟨i, a, hi, ha, (Option.some.inj hf).symm⟩
  · rintro ⟨i, a, hi, ha, rfl⟩
    exact ⟨_, hargs.mem_iff.mpr (mem_arguments.mpr ⟨i, a, hi, ha, rfl⟩), parse?_decimal i a⟩

/-- The arguments make up the sequence that is typed, whatever their order. -/
theorem align_collect_arguments (hmax : n ≤ maxPosition) :
    (align (collect (args.filterMap Field.parse?)) n).answers = typed answer? n := by
  have hpad : pad (collect (args.filterMap Field.parse?)) (typed answer? n).length =
      typed answer? n := by
    refine pad_collect_eq (fun f hf m hm => ?_) fun m h1 hm hne => ?_
    -- an argument gives the answer at its number, and no answer but an empty one is without argument
    · obtain ⟨i, a, ⟨h1, hi⟩, ha, rfl⟩ := (mem_filterMap_arguments hargs).mp hf
      rw [position?_decimal, if_pos ⟨h1, by omega⟩] at hm
      obtain rfl : i = m := Option.some.inj hm
      rw [length_typed, answerAt_typed h1 hi, ha]
      exact ⟨hi, rfl⟩
    · rw [length_typed] at hm
      rw [answerAt_typed h1 hm] at hne
      cases ha : answer? m with
      | none => exact absurd (by rw [ha]; rfl) hne
      | some a =>
        refine ⟨_, (mem_filterMap_arguments hargs).mpr ⟨m, a, ⟨h1, hm⟩, ha, rfl⟩, ?_⟩
        rw [position?_decimal, if_pos ⟨h1, by omega⟩]
  rwa [length_typed] at hpad

end Arguments

end Answers

/-! ## Both commands -/

/-- What `collect` leaves behind when these are the fields: the answers that they make up, aligned
    with a script and completed if there is one. -/
def collected (w : World) (c : Config) (defaults : Bool) (fields : List Field) :
    Option String → Outcome
  | none => { output := unlines (Answers.collect fields) }
  | some script =>
    match Sheet.load w.storage script with
    | .error failure => { failure? := some failure }
    | .ok sheet =>
      let aligned := (Answers.align (Answers.collect fields) sheet.prompts.length).answers
      { output := unlines (Answers.complete aligned sheet (defaults || c.placeholderAsDefault)) }

theorem run_collect_of_ok {w : World} {c : Config} {source : SubmissionSource}
    {script : Option String} {defaults : Bool} {fields : List Field}
    (h : source.fields w.input = .ok fields) :
    (Command.collect source script defaults).run w c = collected w c defaults fields script := by
  rw [Command.run, Command.steps, runCollect, h, Run.outcome_ok_bind]
  cases script with
  | none => exact Answers.outcome_print _
  | some script =>
    rw [collected]
    dsimp only
    cases Sheet.load w.storage script with
    | error f => exact Run.outcome_error_bind f _
    | ok sheet => exact Answers.outcome_print _

/-- Fields that are given are collected, aligned with the script, completed and printed. -/
theorem run_collect_of_fields {w : World} {c : Config} {script source : String} {defaults : Bool}
    {given : SubmissionSource} {fields : List Field} (hread : w.storage.read script = .ok source)
    (h : given.fields w.input = .ok fields) :
    let sheet := Sheet.ofScript source
    let aligned := (Answers.align (Answers.collect fields) sheet.prompts.length).answers
    (Command.collect given (some script) defaults).run w c =
      { output := unlines (Answers.complete aligned sheet (defaults || c.placeholderAsDefault)) } := by
  intro sheet aligned
  rw [run_collect_of_ok h, collected, load_of_read hread]

/-- On a script with `n` prompts, no more than there are positions, `collect` with an argument for
    some of the prompts, in any order, succeeds and prints what `ask` prints when the answers are
    typed, with an empty line for each of the other prompts. -/
theorem collect_agrees_with_ask (w : World) (c : Config) (script source : String) (defaults : Bool)
    (n : Nat) (answer? : Nat → Option String) (args : List String)
    (hread : w.storage.read script = .ok source)
    (hcount : (Sheet.ofScript source).prompts.length = n) (hmax : n ≤ Answers.maxPosition)
    (hline : ∀ i a, 1 ≤ i → i ≤ n → answer? i = some a → IsLine a)
    (hargs : args.Perm (Answers.arguments answer? n)) :
    let typed := Answers.typed answer? n
    let collected := (Command.collect (.arguments args) (some script) defaults).run w c
    let asked := (Command.ask script defaults).run { w with input := encodeText (unlines typed) } c
    collected.failure? = none ∧ asked.failure? = none ∧ collected.output = asked.output ∧
      asked.output = unlines
        (Answers.complete typed (Sheet.ofScript source) (defaults || c.placeholderAsDefault)) := by
  intro typed collected asked
  have htyped : ∀ a ∈ typed, IsLine a := by
    intro a ha
    obtain ⟨i, hi, rfl⟩ := List.mem_map.mp ha
    rw [List.mem_range'_1] at hi
    cases ha : answer? i with
    | none => exact isLine_empty
    | some a => exact hline i a hi.1 (by omega) ha
  have hfields : (SubmissionSource.arguments args).fields w.input =
      .ok (args.filterMap Field.parse?) := Answers.ofArguments_arguments hargs
  have hcollected : collected =
      { output := unlines
          (Answers.complete typed (Sheet.ofScript source) (defaults || c.placeholderAsDefault)) } := by
    show (Command.collect (.arguments args) (some script) defaults).run w c = _
    rw [run_collect_of_fields hread hfields, hcount, Answers.align_collect_arguments hargs hmax]
  have hlen : typed.length = (Sheet.ofScript source).numbered.length := by
    rw [Answers.length_typed, Sheet.numbered, List.length_zipIdx, hcount]
  have hasked : asked.failure? = none ∧ asked.output = unlines
      (Answers.complete typed (Sheet.ofScript source) (defaults || c.placeholderAsDefault)) :=
    run_ask_of_answers hread (Interview.ask_lines hlen htyped)
  rw [hcollected, hasked.2]
  exact ⟨rfl, hasked.1, rfl, rfl⟩

/-- Three prompts, the second of which is left to its placeholder. -/
theorem collect_agrees_with_ask_gap :
    let w : World :=
      { storage := onlyScript "input('A')\ninput('B [é]')\ninput('C')", directory := "/", input := [] }
    let answer? := fun i => [(1, "1=\r1"), (3, "Zoë")].lookup i
    let args := ["3=Zoë", "1=1=\r1"]
    let typed := unlines (Answers.typed answer? 3)
    let asked := (Command.ask "ask.py" true).run { w with input := encodeText typed } {}
    args.Perm (Answers.arguments answer? 3) ∧ typed = "1=\r1\n\nZoë\n" ∧
      ((Command.collect (.arguments args) (some "ask.py") true).run w {}).output = asked.output ∧
      asked.output = "1=\r1\né\nZoë\n" := by
  intro w answer? args typed asked
  have hprompts : (Sheet.ofScript "input('A')\ninput('B [é]')\ninput('C')").prompts =
      [⟨"A", ""⟩, ⟨"B", "é"⟩, ⟨"C", ""⟩] := by decide +kernel
  have hline : ∀ i ≤ 3, ∀ a ∈ answer? i, IsLine a := by decide +kernel
  have hargs : args.Perm (Answers.arguments answer? 3) := by decide +kernel
  obtain ⟨-, -, hsame, hprinted⟩ := collect_agrees_with_ask w {} "ask.py" _ true 3 answer? args
    rfl (by rw [hprompts]; rfl) (by decide) (fun i a _ hi ha => hline i hi a ha) hargs
  rw [Answers.complete, Bool.true_or, if_pos rfl, hprompts] at hprinted
  exact ⟨hargs, by decide +kernel, hsame, hprinted.trans (by decide +kernel)⟩

end AskSheet
