/-
  Steps of a run. A step that succeeds is silent if the output is as it was before (`Silent`), and one
  that fails has failed silently if it is (`FailsSilently`). Steps one after the other fail silently
  if each of them does and all that have another one after them are silent (`FailsSilently.bind`).
  Results that are worked out without writing are silent, and so is asking; writing never fails, and
  answers that are printed line by line make up one text (`print_eq_write`).
-/
import AskSheet.Proofs.Failure
import AskSheet.Run

namespace AskSheet

open Text

namespace Run

section

variable {α β : Type} {kinds : List FailureKind}

/-- Has written nothing to the output if it succeeds. -/
def Silent (x : Run α) : Prop :=
  ∀ t a t', x t = .ok a t' → t'.output = t.output

/-- Has written nothing to the output if it fails, and fails with a failure of one of these kinds. -/
def FailsSilently (kinds : List FailureKind) (x : Run α) : Prop :=
  ∀ t f t', x t = .error f t' → t'.output = t.output ∧ f.kind ∈ kinds

/-! ## Sequences -/

/-- A silent step and what follows it fail silently if both of them do. A step that is not silent must
    not be followed by one that fails, since what was written stays. -/
theorem FailsSilently.bind {x : Run α} {next : α → Run β} (hx : FailsSilently kinds x)
    (hsilent : Silent x) (hnext : ∀ a, FailsSilently kinds (next a)) :
    FailsSilently kinds (x >>= next) := by
  intro t f t' hrun
  change EStateM.bind x next t = _ at hrun
  rw [EStateM.bind] at hrun
  cases hfirst : x t with
  | ok a s =>
    rw [hfirst] at hrun
    obtain ⟨houtput, hkind⟩ := hnext a s f t' hrun
    exact ⟨houtput.trans (hsilent t a s hfirst), hkind⟩
  | error g s =>
    rw [hfirst] at hrun
    cases hrun
    exact hx t f t' hfirst

example : outcome (do write "a"; throw .blankSubmitLabel) =
    { output := "a", failure? := some .blankSubmitLabel } := by decide

/-- Steps that fail silently leave nothing in the output when they fail. -/
theorem FailsSilently.outcome {steps : Run Unit} (h : FailsSilently kinds steps) {f : Failure}
    (hf : steps.outcome.failure? = some f) : steps.outcome.output = "" ∧ f.kind ∈ kinds := by
  rw [Run.outcome] at hf ⊢
  cases hrun : steps {} with
  | ok u t =>
    rw [hrun] at hf
    exact absurd hf nofun
  | error g t =>
    rw [hrun] at hf
    obtain rfl := Option.some.inj hf
    exact h {} g t hrun

/-! ## Results -/

theorem silent_lift (x : Except Failure α) : Silent (x : Run α) := by
  intro t a t' h
  cases x with
  | ok b =>
    cases h
    rfl
  | error f => exact absurd h nofun

theorem failsSilently_lift {x : Except Failure α} (hx : FailsWithin kinds x) :
    FailsSilently kinds (x : Run α) := by
  intro t f t' h
  cases x with
  | ok a => exact absurd h nofun
  | error g =>
    cases h
    exact ⟨rfl, hx f rfl⟩

/-- A result without writing, and what follows it. -/
theorem failsSilently_lift_bind {x : Except Failure α} {next : α → Run β}
    (hx : FailsWithin kinds x) (hnext : ∀ a, FailsSilently kinds (next a)) :
    FailsSilently kinds ((x : Run α) >>= next) :=
  (failsSilently_lift hx).bind (silent_lift x) hnext

theorem outcome_ok_bind (a : α) (next : α → Run Unit) :
    outcome (((.ok a : Except Failure α) : Run α) >>= next) = outcome (next a) := rfl

theorem outcome_error_bind (f : Failure) (next : α → Run Unit) :
    outcome (((.error f : Except Failure α) : Run α) >>= next) = { failure? := some f } := rfl

end

/-! ## Writing -/

theorem write_append (s t : String) : (do write s; write t) = write (s ++ t) := by
  funext transcript
  show EStateM.Result.ok () { transcript with output := transcript.output ++ s ++ t } = _
  rw [String.append_assoc]
  rfl

theorem outcome_write (text : String) : (write text).outcome = { output := text } := by
  show ({ output := "" ++ text } : Outcome) = _
  rw [String.empty_append]

theorem failsSilently_write (kinds : List FailureKind) (text : String) :
    FailsSilently kinds (write text) := fun _ _ _ h => absurd h nofun

end Run

open Run

namespace Answers

/-- The lines of the answers make up one text. -/
theorem print_eq_write (answers : List String) : print answers = write (unlines answers) := by
  induction answers with
  | nil =>
    funext transcript
    show EStateM.Result.ok () transcript =
      .ok () { transcript with output := transcript.output ++ "" }
    rw [String.append_empty]
  | cons answer answers ih =>
    calc print (answer :: answers)
      _ = (do write (answer ++ "\n"); print answers) := rfl
      _ = write (answer ++ "\n" ++ unlines answers) := by rw [ih, write_append]
      _ = write (unlines (answer :: answers)) := by rw [unlines_cons]

theorem outcome_print (answers : List String) :
    outcome (print answers) = { output := unlines answers } := by
  rw [print_eq_write, outcome_write]

theorem failsSilently_print (kinds : List FailureKind) (answers : List String) :
    FailsSilently kinds (print answers) := by
  rw [print_eq_write]
  exact failsSilently_write kinds _

end Answers

/-! ## Asking -/

namespace Sheet

variable {s : Sheet} {input : List UInt8}

theorem ask_of_ok {answers : List String} (h : (s.interview input).answers = .ok answers)
    (t : Transcript) :
    s.ask input t = .ok answers { t with
      prompts := t.prompts ++ (s.interview input).shown
      exhausted := (s.interview input).exhausted } := by
  rw [ask, h]
  rfl

theorem ask_of_error {f : Failure} (h : (s.interview input).answers = .error f) (t : Transcript) :
    s.ask input t = .error f { t with
      prompts := t.prompts ++ (s.interview input).shown
      exhausted := (s.interview input).exhausted } := by
  rw [ask, h]
  rfl

theorem outcome_ask_of_ok {answers : List String} (h : (s.interview input).answers = .ok answers)
    (finish : List String → List String) :
    outcome (do let given ← s.ask input; Answers.print (finish given)) =
      { output := unlines (finish answers)
        prompts := (s.interview input).shown
        exhausted := (s.interview input).exhausted } := by
  simp only [Answers.print_eq_write]
  show outcome (EStateM.bind (s.ask input) fun given => write (unlines (finish given))) = _
  rw [outcome, EStateM.bind, ask_of_ok h]
  show ({ output := "" ++ _, prompts := "" ++ _, exhausted := _ } : Outcome) = _
  rw [String.empty_append, String.empty_append]

theorem outcome_ask_of_error {f : Failure} (h : (s.interview input).answers = .error f)
    (next : List String → Run Unit) :
    outcome (s.ask input >>= next) =
      { failure? := some f
        prompts := (s.interview input).shown
        exhausted := (s.interview input).exhausted } := by
  show outcome (EStateM.bind (s.ask input) next) = _
  rw [outcome, EStateM.bind, ask_of_error h]
  simp only [String.empty_append]

/-- Asking shows prompts, but not on the output. -/
theorem silent_ask : Silent (s.ask input) := by
  intro t answers t' hrun
  cases h : (s.interview input).answers with
  | ok as =>
    rw [ask_of_ok h] at hrun
    cases hrun
    rfl
  | error f =>
    rw [ask_of_error h] at hrun
    exact absurd hrun nofun

theorem failsSilently_ask {kinds : List FailureKind}
    (hanswers : FailsWithin kinds (s.interview input).answers) :
    FailsSilently kinds (s.ask input) := by
  intro t f t' hrun
  cases h : (s.interview input).answers with
  | ok as =>
    rw [ask_of_ok h] at hrun
    exact absurd hrun nofun
  | error g =>
    rw [ask_of_error h] at hrun
    cases hrun
    exact ⟨rfl, hanswers f h⟩

end Sheet

end AskSheet
