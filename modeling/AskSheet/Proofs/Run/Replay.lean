/-
  Answers that are asked for again. What `ask` prints is one line for each prompt of the script
  (`isLine_of_complete`), and given its own output as input it prints the same again
  (`ask_replays`): the lines are read back as they are, and filling in placeholders a second time
  changes nothing.
-/
import AskSheet.Proofs.Answers.Filling
import AskSheet.Proofs.Call.Occurrence
import AskSheet.Proofs.Interview.Lines
import AskSheet.Proofs.Prompt.Reading
import AskSheet.Proofs.Run.Step
import AskSheet.Proofs.Text.Lines

namespace AskSheet

open Text

/-! ## Lines of output -/

/-- A placeholder of a script stands on one line. -/
theorem Sheet.isLine_placeholder {source : String} {p : Prompt}
    (h : p ∈ (Sheet.ofScript source).prompts) : IsLine p.placeholder := by
  obtain ⟨raw, hraw, rfl⟩ := List.mem_map.mp h
  constructor
  · intro hfeed
    exact Script.Call.newline_not_mem_of_literals hraw (Prompt.mem_of_mem_placeholder hfeed)
  · intro hreturn
    have hblank := (Prompt.trimmed_placeholder raw).2 '\r' hreturn
    exact absurd hblank (by decide)

namespace Answers

theorem length_complete (as : List String) (sheet : Sheet) (defaults : Bool) :
    (complete as sheet defaults).length = as.length := by
  rw [complete]
  split
  · exact length_fillDefaults as sheet.prompts
  · rfl

theorem complete_complete (as : List String) (sheet : Sheet) (defaults : Bool) :
    complete (complete as sheet defaults) sheet defaults = complete as sheet defaults := by
  cases defaults with
  | true => exact fillDefaults_fillDefaults as sheet.prompts
  | false => rfl

/-- Answers that are lines are still lines when placeholders of a script are filled in. -/
theorem isLine_of_complete {as : List String} {source : String} (h : ∀ a ∈ as, IsLine a)
    (defaults : Bool) : ∀ a ∈ complete as (Sheet.ofScript source) defaults, IsLine a := by
  intro a ha
  rw [complete] at ha
  split at ha
  · rcases mem_fillDefaults ha with hmem | ⟨p, hp, rfl⟩
    · exact h a hmem
    · exact Sheet.isLine_placeholder hp
  · exact h a ha

end Answers

/-! ## Asking -/

section

variable {w : World} {c : Config} {script source : String} {defaults : Bool}

theorem load_of_read {storage : Storage} (h : storage.read script = .ok source) :
    Sheet.load storage script = .ok (Sheet.ofScript source) := by
  rw [Sheet.load, h]

/-- Answers that were given are completed and printed. -/
theorem run_ask_of_answers {answers : List String} (hread : w.storage.read script = .ok source)
    (h : ((Sheet.ofScript source).interview w.input).answers = .ok answers) :
    ((Command.ask script defaults).run w c).failure? = none ∧
      ((Command.ask script defaults).run w c).output = unlines
        (Answers.complete answers (Sheet.ofScript source) (defaults || c.placeholderAsDefault)) := by
  rw [Command.run, Command.steps, runAsk, load_of_read hread, Run.outcome_ok_bind,
    Sheet.outcome_ask_of_ok h fun given =>
      Answers.complete given (Sheet.ofScript source) (defaults || c.placeholderAsDefault)]
  exact ⟨rfl, rfl⟩

/-- A run that does not fail has read the script and has an answer to each prompt. -/
theorem exists_answers_of_run_ask (h : ((Command.ask script defaults).run w c).failure? = none) :
    ∃ source answers, w.storage.read script = .ok source ∧
      ((Sheet.ofScript source).interview w.input).answers = .ok answers := by
  cases hread : w.storage.read script with
  | error e =>
    rw [Command.run, Command.steps, runAsk, Sheet.load, hread] at h
    exact absurd h nofun
  | ok source =>
    rw [Command.run, Command.steps, runAsk, load_of_read hread, Run.outcome_ok_bind] at h
    cases hanswers : ((Sheet.ofScript source).interview w.input).answers with
    | error e =>
      rw [Sheet.outcome_ask_of_error hanswers] at h
      exact absurd h nofun
    | ok answers => exact ⟨source, answers, rfl, hanswers⟩

end

/-- When asking succeeds, the output is one line for each prompt of the script, and the lines are the
    answers. Asking again with the output as input succeeds with the same output. -/
theorem ask_replays (w : World) (c : Config) (script : String) (defaults : Bool)
    (h : ((Command.ask script defaults).run w c).failure? = none) :
    let output := ((Command.ask script defaults).run w c).output
    let again := (Command.ask script defaults).run { w with input := encodeText output } c
    ∃ source given, w.storage.read script = .ok source ∧
      let sheet := Sheet.ofScript source
      let answers := Answers.complete given sheet (defaults || c.placeholderAsDefault)
      (sheet.interview w.input).answers = .ok given ∧
      answers.length = sheet.prompts.length ∧ (∀ a ∈ answers, IsLine a) ∧
      output = unlines answers ∧
      output.toList.splitOn '\n' = answers.map String.toList ++ [[]] ∧
      again.failure? = none ∧ again.output = output := by
  intro output again
  obtain ⟨source, given, hread, hgiven⟩ := exists_answers_of_run_ask h
  refine ⟨source, given, hread, ?_⟩
  intro sheet answers
  obtain ⟨hcount, hlines⟩ := Interview.isLine_of_ask hgiven
  have hlen : answers.length = sheet.prompts.length := by
    rw [Answers.length_complete, hcount, Sheet.numbered, List.length_zipIdx]
  have hline : ∀ a ∈ answers, IsLine a := Answers.isLine_of_complete hlines _
  have houtput : output = unlines answers := (run_ask_of_answers hread hgiven).2
  -- there is one line for each prompt, so the second run reads all of them and does not run out
  have hread_again : (sheet.interview (encodeText output)).answers = .ok answers := by
    rw [houtput]
    exact Interview.ask_lines (by rw [hlen, Sheet.numbered, List.length_zipIdx]) hline
  have hagain : again.failure? = none ∧ again.output = unlines
      (Answers.complete answers sheet (defaults || c.placeholderAsDefault)) :=
    run_ask_of_answers hread hread_again
  rw [Answers.complete_complete] at hagain
  refine ⟨hgiven, hlen, hline, houtput, ?_, hagain.1, hagain.2.trans houtput.symm⟩
  rw [houtput]
  exact splitOn_unlines fun a ha => (hline a ha).no_feed

/-- A place where one script is kept. -/
def onlyScript (source : String) : Storage where
  read path := if path = "ask.py" then .ok source else .error .notFound
  isFile path := path == "ask.py"

/-- A script with three prompts, and input that ends before the third one. -/
def shortInterview : World where
  storage := onlyScript "input('A [Bob]')\ninput('B')\ninput('C [é]')"
  directory := "/"
  input := encodeText "\r\n1=\r1\r\r"

theorem ask_replays_short :
    let outcome := (Command.ask "ask.py" true).run shortInterview {}
    outcome.failure? = none ∧ outcome.output = "Bob\n1=\r1\né\n" ∧
      ((Command.ask "ask.py" true).run
        { shortInterview with input := encodeText outcome.output } {}).output = outcome.output := by
  have h : ((Command.ask "ask.py" true).run shortInterview {}).failure? = none := by
    decide +kernel
  obtain ⟨_, _, _, _, _, _, _, _, _, hagain⟩ := ask_replays shortInterview {} "ask.py" true h
  exact ⟨h, by decide +kernel, hagain⟩

end AskSheet
