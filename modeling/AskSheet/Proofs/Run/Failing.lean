/-
  Runs that fail. Each step of a run fails within kinds of its own (`FailsWithin`), and all steps of a
  command that can fail come before the first one that writes (`failsSilently_steps`). Only finding
  the configuration fails with a failure of the configuration, and it comes first.
  `failures_of_run` puts this together: a run that fails has written nothing, and what kind of
  failure it ends with depends on the configuration and on the command alone.
-/
import AskSheet.Proofs.Config.Discovery
import AskSheet.Proofs.Run.Step
import Mathlib.Data.List.TakeDrop
import Mathlib.Data.List.TakeWhile

namespace AskSheet

open Run Text

/-! ## Finding the configuration -/

/-- The two worlds have the same configuration file for a request. -/
structure World.SameConfig (w w' : World) (r : Request) : Prop where
  directory : w'.directory = w.directory
  read : w'.storage.read (r.configPath w.directory) = w.storage.read (r.configPath w.directory)
  isFile : w'.storage.isFile (r.configPath w.directory) =
    w.storage.isFile (r.configPath w.directory)

/-- The configuration depends on its own file only. -/
theorem discover_congr {w w' : World} {r : Request} (h : w.SameConfig w' r) :
    Config.discover w'.storage r.config w'.directory =
      Config.discover w.storage r.config w.directory := by
  obtain ⟨hdir, hread, hfile⟩ := h
  rw [hdir]
  cases hconfig : r.config with
  | some path =>
    rw [Request.configPath, hconfig] at hread
    rw [Config.discover, Config.discover, Config.load, Config.load]
    rw [Option.getD_some] at hread
    rw [hread]
  | none =>
    rw [Request.configPath, hconfig] at hread hfile
    rw [Config.discover, Config.discover, Config.load, Config.load]
    dsimp only [Option.getD_none] at hread hfile ⊢
    rw [hread, hfile]

/-! ## The steps of a command -/

theorem failsWithin_sheet (storage : Storage) (path : String) :
    FailsWithin [.io] (Sheet.load storage path) := by
  unfold Sheet.load
  split
  · exact failsWithin_ok _
  · exact failsWithin_error List.mem_cons_self

theorem failsWithin_source (storage : Storage) (builtIn : String) (path : Option String) :
    FailsWithin [.io] (Page.source storage builtIn path) := by
  cases path with
  | none => exact failsWithin_ok builtIn
  | some path => exact failsWithin_mapError List.mem_cons_self _ fun _ => by rfl

theorem failsWithin_templates (storage : Storage) (form field : Option String) :
    FailsWithin [.io, .template] (Page.FormTemplate.load storage form field) := by
  unfold Page.FormTemplate.load
  refine ((failsWithin_source storage _ form).mono (by simp)).bind fun form _ => ?_
  refine ((failsWithin_source storage _ field).mono (by simp)).bind fun field _ => ?_
  exact failsWithin_mapError (List.mem_cons_of_mem _ List.mem_cons_self) _ fun _ => by rfl

theorem failsWithin_arguments (args : List String) :
    FailsWithin [.user] (Submission.ofArguments args) := by
  induction args with
  | nil => exact failsWithin_ok []
  | cons arg args ih =>
    unfold Submission.ofArguments
    split
    · exact failsWithin_error List.mem_cons_self
    · exact ih.map _

theorem failsWithin_members (members : List (String × Json)) :
    FailsWithin [.user] (Submission.ofMembers members) := by
  induction members with
  | nil => exact failsWithin_ok []
  | cons member members ih =>
    unfold Submission.ofMembers
    split
    · exact failsWithin_error List.mem_cons_self
    · exact ih.map _

theorem failsWithin_json (text : String) : FailsWithin [.user] (Submission.ofJson text) := by
  unfold Submission.ofJson
  split
  · dsimp only
    split
    · exact failsWithin_members _
    · exact failsWithin_error List.mem_cons_self
  · exact failsWithin_error List.mem_cons_self
  · exact failsWithin_error List.mem_cons_self

theorem failsWithin_fields (input : List UInt8) (source : SubmissionSource) :
    FailsWithin [.io, .user] (source.fields input) := by
  cases source with
  | arguments fields => exact (failsWithin_arguments fields).mono (by simp)
  | json =>
    rw [SubmissionSource.fields]
    cases decodeText input with
    | ok text => exact (failsWithin_json text).mono (by simp)
    | error e => exact failsWithin_error List.mem_cons_self

theorem failsWithin_ask (ps : List (Prompt × Nat)) (input : List UInt8) :
    FailsWithin [.io] (Interview.ask ps input).answers := by
  induction ps generalizing input with
  | nil => exact failsWithin_ok []
  | cons p ps ih =>
    unfold Interview.ask
    split
    · exact failsWithin_ok _
    · split
      · exact failsWithin_error List.mem_cons_self
      · exact (ih _).map _

/-! ## Commands -/

/-- The kinds of failure that a command can end with once there is a configuration. -/
def Command.failureKinds : Command → List FailureKind
  | .scan .. | .ask .. => [.io]
  | .form .. => [.io, .template]
  | .collect .. => [.io, .user]

section

variable (w : World) (c : Config)

theorem failsSilently_runScan (script : String) (format : Option OutputFormat) :
    FailsSilently [.io] (runScan w c script format) :=
  failsSilently_lift_bind (failsWithin_sheet w.storage script) fun _ => failsSilently_write _ _

theorem failsSilently_runForm (script : String) (page field label : Option String) :
    FailsSilently [.io, .template] (runForm w c script page field label) := by
  refine failsSilently_lift_bind ((failsWithin_sheet w.storage script).mono (by simp)) fun sheet => ?_
  refine failsSilently_lift_bind (failsWithin_templates w.storage _ _) fun template => ?_
  refine failsSilently_lift_bind ?_ fun text => failsSilently_write _ text
  exact failsWithin_mapError (List.mem_cons_of_mem _ List.mem_cons_self) _ fun _ => rfl

theorem failsSilently_runCollect (source : SubmissionSource) (script : Option String)
    (defaults : Bool) : FailsSilently [.io, .user] (runCollect w c source script defaults) := by
  refine failsSilently_lift_bind (failsWithin_fields w.input source) fun fields => ?_
  cases script with
  | none => exact Answers.failsSilently_print _ _
  | some script =>
    exact failsSilently_lift_bind ((failsWithin_sheet w.storage script).mono (by simp))
      fun _ => Answers.failsSilently_print _ _

theorem failsSilently_runAsk (script : String) (defaults : Bool) :
    FailsSilently [.io] (runAsk w c script defaults) := by
  refine failsSilently_lift_bind (failsWithin_sheet w.storage script) fun sheet => ?_
  exact (Sheet.failsSilently_ask (failsWithin_ask sheet.numbered w.input)).bind Sheet.silent_ask
    fun _ => Answers.failsSilently_print _ _

/-- A command that fails has written nothing, and fails with a failure of its kinds. -/
theorem failsSilently_steps (command : Command) :
    FailsSilently command.failureKinds (command.steps w c) := by
  cases command with
  | scan script format => exact failsSilently_runScan w c script format
  | form script page field label => exact failsSilently_runForm w c script page field label
  | collect source script defaults => exact failsSilently_runCollect w c source script defaults
  | ask script defaults => exact failsSilently_runAsk w c script defaults

end

/-! ## Malformed fields -/

theorem Field.isSome_parse?_iff {arg : String} :
    (Field.parse? arg).isSome ↔ '=' ∈ arg.toList := by
  rw [Field.parse?, List.span_eq_takeWhile_dropWhile]
  cases hrest : arg.toList.dropWhile (fun c => decide (c ≠ '=')) with
  | nil =>
    rw [List.dropWhile_eq_nil_iff] at hrest
    constructor
    · intro h
      exact absurd h (by simp)
    · intro h
      exact absurd (hrest '=' h) (by simp)
  | cons c rest =>
    have hhead := List.head?_dropWhile_not (fun c => decide (c ≠ '=')) arg.toList
    rw [hrest] at hhead
    obtain rfl : c = '=' := by simpa using hhead
    have hmem : '=' ∈ arg.toList.dropWhile (fun c => decide (c ≠ '=')) :=
      hrest ▸ List.mem_cons_self
    exact ⟨fun _ => (List.dropWhile_suffix _).subset hmem, fun _ => rfl⟩

/-- The first argument without `=` is the one that counts. -/
theorem Submission.ofArguments_append {before after : List String} {arg : String}
    (hbefore : ∀ a ∈ before, '=' ∈ a.toList) (harg : '=' ∉ arg.toList) :
    ofArguments (before ++ arg :: after) = .error (.malformedField arg) := by
  induction before with
  | nil =>
    have hnone : Field.parse? arg = none := by
      rw [← Option.not_isSome_iff_eq_none, Field.isSome_parse?_iff]
      exact harg
    rw [List.nil_append, ofArguments, hnone]
  | cons a before ih =>
    obtain ⟨field, hfield⟩ :=
      Option.isSome_iff_exists.mp (Field.isSome_parse?_iff.mpr (hbefore a List.mem_cons_self))
    rw [List.cons_append, ofArguments, hfield]
    dsimp only
    rw [ih fun b hb => hbefore b (List.mem_cons_of_mem a hb)]
    rfl

/-! ## Requests -/

theorem Failure.exitCode_eq_two_iff (f : Failure) : f.exitCode = 2 ↔ f.kind = .config := by
  rw [Failure.exitCode]
  cases f.kind <;> decide

theorem Command.config_not_mem_failureKinds (command : Command) :
    FailureKind.config ∉ command.failureKinds := by
  cases command <;> simp [failureKinds]

namespace Request

variable {w : World} {r : Request}

theorem run_of_error {f : Failure}
    (h : Config.discover w.storage r.config w.directory = .error f) :
    r.run w = { failure? := some f } := by
  rw [run, steps, h, outcome_error_bind]

theorem run_of_ok {c : Config} (h : Config.discover w.storage r.config w.directory = .ok c) :
    r.run w = r.command.run w c := by
  rw [run, steps, h, outcome_ok_bind, Command.run]

end Request

/-- A run that fails has written nothing. It ends with a failure of the configuration, and exit code
    2, exactly when there is none to be had; then no prompt was shown, and another command, other
    scripts and templates and another input lead to the same outcome. Otherwise the kind of failure
    is one of its command. An argument without `=` counts before all that comes after it: the other
    arguments and the script. -/
theorem failures_of_run (w : World) (r : Request) :
    let configured := Config.discover w.storage r.config w.directory
    (∀ f, (r.run w).failure? = some f →
      (r.run w).output = "" ∧ (f.exitCode = 2 ↔ f.kind = .config) ∧
      (f.kind = .config ↔ ∃ e, configured = .error e) ∧
      ∀ c, configured = .ok c → f.kind ∈ r.command.failureKinds) ∧
    (∀ f, configured = .error f → f.kind = .config ∧ ∀ w' command, w.SameConfig w' r →
      ({ r with command } : Request).run w' = { failure? := some f, output := "", prompts := "" }) ∧
    (∀ c before arg after script defaults, configured = .ok c →
      r.command = .collect (.arguments (before ++ arg :: after)) script defaults →
      (∀ a ∈ before, '=' ∈ a.toList) → '=' ∉ arg.toList →
      let f := Failure.malformedField arg
      r.run w = { failure? := some f } ∧ f.kind = .user ∧
      f.message = "invalid submission '" ++ arg ++ "': expected KEY=VALUE (e.g. 1=Bob)") := by
  intro configured
  have hkind : ∀ e, configured = .error e → e.kind = .config := fun e he =>
    List.mem_singleton.mp (Config.failsWithin_discover w.storage r.config w.directory e he)
  refine ⟨fun f h => ?_, fun f h => ⟨hkind f h, fun w' command hw => ?_⟩, ?_⟩
  · cases hc : configured with
    | error e =>
      rw [Request.run_of_error hc] at h ⊢
      obtain rfl := Option.some.inj h
      exact ⟨rfl, e.exitCode_eq_two_iff, iff_of_true (hkind e hc) ⟨e, rfl⟩, nofun⟩
    | ok c =>
      rw [Request.run_of_ok hc] at h ⊢
      obtain ⟨houtput, hmem⟩ := (failsSilently_steps w c r.command).outcome h
      have hnot : f.kind ≠ .config := fun hconfig =>
        r.command.config_not_mem_failureKinds (hconfig ▸ hmem)
      exact ⟨houtput, f.exitCode_eq_two_iff, iff_of_false hnot nofun, fun _ _ => hmem⟩
  · exact Request.run_of_error ((discover_congr hw).trans h)
  · intro c before arg after script defaults hc hcommand hbefore harg f
    refine ⟨?_, rfl, String.empty_append⟩
    rw [Request.run_of_ok hc, hcommand, Command.run, Command.steps, runCollect,
      SubmissionSource.fields, Submission.ofArguments_append hbefore harg, outcome_error_bind]

/-- A world without any file, and so without a configuration of its own. -/
def noFiles : World where
  storage := { read := fun _ => .error .notFound, isFile := fun _ => false }
  directory := "/"
  input := []

/-- Two arguments are malformed and there is no script; then a configuration that is not there. -/
theorem failures_of_run_noFiles :
    let collects : Request :=
      { config := none, command := .collect (.arguments ["1=a=", "é", "2"]) (some "a.py") true }
    let asks : Request := { config := some "c.yaml", command := .ask "a.py" false }
    collects.run noFiles = { failure? := some (.malformedField "é") } ∧
      (collects.run noFiles).output = "" ∧
      asks.run noFiles = { failure? := some (.unreadableConfig "c.yaml" .notFound) } := by
  intro collects asks
  obtain ⟨hfails, -, hfield⟩ := failures_of_run noFiles collects
  obtain ⟨-, hconfig, -⟩ := failures_of_run noFiles asks
  obtain ⟨hrun, -, -⟩ := hfield {} ["1=a="] "é" ["2"] (some "a.py") true rfl rfl (by decide)
    (by decide)
  refine ⟨hrun, (hfails (.malformedField "é") (by rw [hrun])).1, ?_⟩
  exact (hconfig (.unreadableConfig "c.yaml" .notFound) rfl).2 noFiles asks.command ⟨rfl, rfl, rfl⟩

end AskSheet
