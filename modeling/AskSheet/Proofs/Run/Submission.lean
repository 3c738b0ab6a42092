/-
  Submissions as JSON and as arguments. A JSON object on the input is collected as the fields of its
  members, the last one of each key, in the order of the keys. So the order in which different keys
  are written does not matter, and when no two keys denote the same position the run leaves behind
  what it leaves behind when the fields are given as arguments, in any order
  (`json_collects_members`).
-/
import AskSheet.Proofs.Answers.Position
import AskSheet.Proofs.Json.Writing
import AskSheet.Proofs.Run.Agreement
import AskSheet.Proofs.Submission.Members

namespace AskSheet

open Answers Submission Text

/-- The argument that a field is given as. -/
def Field.argument (f : Field) : String := f.key ++ "=" ++ f.value

section

variable {w : World} {c : Config} {source : SubmissionSource} {script : Option String}
  {defaults : Bool}

/-- All that counts of the fields is the answers that they make up. -/
theorem collected_congr {w' : World} {fields fields' : List Field} (hstorage : w'.storage = w.storage)
    (h : collect fields' = collect fields) :
    collected w' c defaults fields' script = collected w c defaults fields script := by
  cases script with
  | none => rw [collected, collected, h]
  | some script => rw [collected, collected, hstorage, h]

theorem run_collect_of_error {f : Failure} (h : source.fields w.input = .error f) :
    (Command.collect source script defaults).run w c = { failure? := some f } := by
  rw [Command.run, Command.steps, runCollect, h, Run.outcome_error_bind]

/-- What `collect` leaves behind depends on nothing but the storage and the fields. -/
theorem run_collect_congr {w' : World} (hstorage : w'.storage = w.storage)
    (h : source.fields w'.input = source.fields w.input) :
    (Command.collect source script defaults).run w' c =
      (Command.collect source script defaults).run w c := by
  cases hfields : source.fields w.input with
  | ok fields =>
    rw [run_collect_of_ok (h.trans hfields), run_collect_of_ok hfields]
    exact collected_congr hstorage rfl
  | error f => rw [run_collect_of_error (h.trans hfields), run_collect_of_error hfields]

theorem fields_json {text : String} (h : decodeText w.input = .ok text) :
    SubmissionSource.json.fields w.input = ofJson text := by
  rw [SubmissionSource.fields, h]

end

/-! ## Fields as arguments -/

theorem parse?_argument {f : Field} (h : IsPositional f.key) : Field.parse? f.argument = some f := by
  obtain ⟨n, hn⟩ := h
  exact Field.parse?_append hn.equals_not_mem f.value

/-- Fields for different positions are collected from their arguments, in whatever order they stand. -/
theorem collect_of_arguments {fields : List Field} {args : List String}
    (hdistinct : fields.Pairwise fun f g => ∀ n, Denotes f.key n → ¬ Denotes g.key n)
    (hargs : args.Perm ((fields.filter fun f => IsPositional f.key).map Field.argument)) :
    ∃ given, ofArguments args = .ok given ∧ collect given = collect fields := by
  have hpositional : ∀ f ∈ fields.filter fun f => IsPositional f.key, IsPositional f.key :=
    fun f hf => of_decide_eq_true (List.mem_filter.mp hf).2
  have hparses : ∀ arg ∈ args, (Field.parse? arg).isSome := by
    intro arg harg
    obtain ⟨f, hf, rfl⟩ := List.mem_map.mp (hargs.mem_iff.mp harg)
    rw [parse?_argument (hpositional f hf), Option.isSome_some]
  have hback : ((fields.filter fun f => IsPositional f.key).map Field.argument).filterMap
      Field.parse? = fields.filter fun f => IsPositional f.key := by
    rw [List.filterMap_map]
    exact (List.filterMap_congr fun f hf => parse?_argument (hpositional f hf)).trans
      List.filterMap_some
  have hperm : (args.filterMap Field.parse?).Perm (fields.filter fun f => IsPositional f.key) :=
    hback ▸ hargs.filterMap Field.parse?
  refine ⟨_, ofArguments_of_isSome hparses, ?_⟩
  rw [collect_perm hperm (hdistinct.sublist List.filter_sublist), collect_filter_isPositional]

/-! ## Both commands -/

/-- A JSON object on the input is collected as the texts of its members, the last one of each key, in
    the order of the keys, if these are all plain. If moreover no two keys denote the same position,
    arguments for the keys that denote one lead to the same outcome, in whatever order they stand. The
    order of members with different keys never matters. If one of the members that count is an array or
    an object, the run fails on the one with the least key. -/
theorem json_collects_members (w : World) (c : Config) (script : Option String) (defaults : Bool)
    (text : String) (members : List (Option String × Json))
    (hinput : decodeText w.input = .ok text) (haccepts : Accepts text members) :
    let run := (Command.collect .json script defaults).run w c
    ((∀ key value, Survives members key value → ∃ t, Plain value t) →
      ∃ fields : List Field, fields.Pairwise (fun f g => f.key < g.key) ∧
        (∀ f, f ∈ fields ↔ ∃ value, Survives members f.key value ∧ Plain value f.value) ∧
        run = collected w c defaults fields script ∧
        ((∀ f ∈ fields, ∀ g ∈ fields, ∀ n, Denotes f.key n → Denotes g.key n → f.key = g.key) →
          ∀ args : List String,
            args.Perm ((fields.filter fun f => IsPositional f.key).map Field.argument) →
            (Command.collect (.arguments args) script defaults).run w c = run)) ∧
    (∀ w' text' members', w'.storage = w.storage → decodeText w'.input = .ok text' →
      Accepts text' members' → (∀ key, membersOf key members' = membersOf key members) →
      (Command.collect .json script defaults).run w' c = run) ∧
    ((∃ key value, Survives members key value ∧ IsNested value) →
      ∃ key value, (Survives members key value ∧ IsNested value) ∧
        (∀ k v, Survives members k v → IsNested v → key ≤ k) ∧
        run = { failure? := some (.nestedValue key), output := "" } ∧
        (Failure.nestedValue key).kind = .user ∧ (Failure.nestedValue key).message =
          "submission field '" ++ key ++ "' must be a string, number, boolean or null") := by
  intro run
  have hfields : SubmissionSource.json.fields w.input = ofJson text := fields_json hinput
  refine ⟨fun hplain => ?_, fun w' text' members' hstorage hinput' haccepts' hsame => ?_,
    fun hnested => ?_⟩
  · obtain ⟨fields, hjson, hsorted, hmem⟩ := exists_fields_of_plain haccepts hplain
    have hrun : run = collected w c defaults fields script := run_collect_of_ok (hfields.trans hjson)
    refine ⟨fields, hsorted, hmem, hrun, fun hpositions args hargs => ?_⟩
    have hdistinct : fields.Pairwise fun f g => ∀ n, Denotes f.key n → ¬ Denotes g.key n := by
      refine List.Pairwise.imp_of_mem (fun hf hg hlt n hfn hgn => ?_) hsorted
      exact lt_irrefl _ (hpositions _ hf _ hg n hfn hgn ▸ hlt)
    obtain ⟨given, hgiven, hcollect⟩ := collect_of_arguments hdistinct hargs
    have hargs : (SubmissionSource.arguments args).fields w.input = .ok given := hgiven
    rw [hrun, run_collect_of_ok hargs]
    exact collected_congr rfl hcollect
  · refine run_collect_congr hstorage ?_
    rw [hfields, fields_json hinput', haccepts.ofJson, haccepts'.ofJson,
      sortMembers_congr haccepts.keys haccepts'.keys hsame]
  · obtain ⟨key, value, hkey, hleast, hjson⟩ := exists_nested_of_survives haccepts hnested
    exact ⟨key, value, hkey, hleast, run_collect_of_error (hfields.trans hjson), rfl,
      String.empty_append⟩

/-- An object in which an array is written before the text that replaces it. -/
def replaced : List (Option String × Json) :=
  [(some "2", .array []), (some "x", .bool true), (some "01", .null), (some "2", .string (some "a=b"))]

theorem json_collects_members_replaced :
    let text := (Json.object replaced).compact
    let w : World :=
      { storage := onlyScript "input('A [é]')\ninput('B')", directory := "/", input := encodeText text }
    let run := (Command.collect .json (some "ask.py") true).run w {}
    text = "\x7b\"2\":[],\"x\":true,\"01\":null,\"2\":\"a=b\"\x7d" ∧ Accepts text replaced ∧
      (Command.collect (.arguments ["2=a=b", "01="]) (some "ask.py") true).run w {} = run ∧
      run.output = "é\na=b\n" := by
  intro text w run
  have haccepts : Accepts text replaced := ⟨Json.parse?_compact rfl, rfl, by decide⟩
  have hsurvives (key : String) (value : Json) : Survives replaced key value ↔
      (key, value) = ("2", .string (some "a=b")) ∨ (key, value) = ("01", .null) ∨
        (key, value) = ("x", .bool true) := by
    have hsplit : replaced =
        [] ++ [(some "2", .array [])] ++ [(some "x", .bool true)] ++ [(some "01", .null)] ++
          [(some "2", .string (some "a=b"))] := rfl
    have hnone : ¬ Survives [] key value := nofun
    rw [hsplit, survives_append_iff, survives_append_iff, survives_append_iff, survives_append_iff]
    simp only [Prod.mk.injEq]
    grind
  obtain ⟨hplain, -, -⟩ := json_collects_members w {} (some "ask.py") true text replaced
    (decodeText_encodeText text) haccepts
  obtain ⟨fields, hsorted, hmem, hrun, hagrees⟩ := hplain fun key value h => by
    rw [hsurvives] at h
    simp only [Prod.mk.injEq] at h
    rcases h with ⟨-, rfl⟩ | ⟨-, rfl⟩ | ⟨-, rfl⟩
    · exact ⟨_, .string "a=b"⟩
    · exact ⟨_, .null⟩
    · exact ⟨_, .bool true⟩
  have hfields : fields = [⟨"01", ""⟩, ⟨"2", "a=b"⟩, ⟨"x", "true"⟩] := by
    refine ext_of_increasing hsorted (by decide +kernel) fun ⟨key, value⟩ => ?_
    rw [hmem]
    simp only [List.mem_cons, List.not_mem_nil, or_false, Field.mk.injEq]
    constructor
    · rintro ⟨v, hv, ht⟩
      rw [hsurvives] at hv
      simp only [Prod.mk.injEq] at hv
      rcases hv with ⟨rfl, rfl⟩ | ⟨rfl, rfl⟩ | ⟨rfl, rfl⟩ <;> cases ht <;> simp
    · rintro (⟨rfl, rfl⟩ | ⟨rfl, rfl⟩ | ⟨rfl, rfl⟩)
      · exact ⟨.null, (hsurvives _ _).mpr (Or.inr (Or.inl rfl)), .null⟩
      · exact ⟨_, (hsurvives _ _).mpr (Or.inl rfl), .string "a=b"⟩
      · exact ⟨_, (hsurvives _ _).mpr (Or.inr (Or.inr rfl)), .bool true⟩
  subst hfields
  refine ⟨by decide +kernel, haccepts, hagrees ?_ _ (by decide +kernel), ?_⟩
  · intro f hf g hg n hfn hgn
    have hsame : ∀ f ∈ [⟨"01", ""⟩, ⟨"2", "a=b"⟩, (⟨"x", "true"⟩ : Field)],
        ∀ g ∈ [⟨"01", ""⟩, ⟨"2", "a=b"⟩, (⟨"x", "true"⟩ : Field)],
        position? f.key = position? g.key → (position? f.key).isSome → f.key = g.key := by
      decide +kernel
    rw [← position?_eq_some_iff] at hfn hgn
    exact hsame f hf g hg (hfn.trans hgn.symm) (by rw [hfn, Option.isSome_some])
  · show ((Command.collect .json (some "ask.py") true).run w {}).output = _
    rw [hrun]
    decide +kernel

end AskSheet
