/-
  Finding the configuration. What is written in a file is checked before its template paths are seen
  from the directory of the file, and stays valid then, because no path becomes empty
  (`Resolved.validate`). A file that holds a valid configuration gives it with its paths resolved
  (`load_of_holds`), no other file gives one (`exists_holds_of_load`), and all that can go wrong is a
  failure of the configuration (`failsWithin_discover`). `discover_valid_or_refused` puts this
  together with the choice of the file.
-/
import AskSheet.Config.Discovery
import AskSheet.Proofs.Config.Valid
import AskSheet.Proofs.Failure
import AskSheet.Proofs.Storage.Rooted
import AskSheet.Proofs.Text.Encoding

namespace AskSheet.Config

/-! ## Failures -/

theorem failsWithin_validate (c : Config) : FailsWithin [.config] c.validate := by
  unfold validate
  split
  · exact failsWithin_error List.mem_cons_self
  · split
    · exact failsWithin_error List.mem_cons_self
    · split
      · exact failsWithin_error List.mem_cons_self
      · exact failsWithin_ok ()

theorem failsWithin_ofYaml (text : String) : FailsWithin [.config] (ofYaml text) := by
  unfold ofYaml
  split
  · exact failsWithin_error List.mem_cons_self
  · exact (failsWithin_validate _).map _

theorem failsWithin_load (storage : Storage) (path : String) :
    FailsWithin [.config] (load storage path) := by
  unfold load
  split
  · exact failsWithin_error List.mem_cons_self
  · exact (failsWithin_ofYaml _).map _

theorem failsWithin_discover (storage : Storage) (explicit : Option String) (dir : String) :
    FailsWithin [.config] (discover storage explicit dir) := by
  unfold discover
  split
  · exact failsWithin_load storage _
  · split
    · exact failsWithin_load storage _
    · exact failsWithin_ok _

/-! ## Template paths -/

/-- The path that is written in a file of the directory `base`, as a run uses it: an absolute path
    as it is, any other joined to the directory. -/
inductive SeenFrom (base : String) : Option String → Option String → Prop
  | unset : SeenFrom base none none
  | absolute {p : String} : Path.isAbsolute p = true → SeenFrom base (some p) (some p)
  | relative {p : String} : Path.isAbsolute p = false → p ≠ "" →
      SeenFrom base (some p) (some (Path.join base p))

/-- The configuration `c` is what is written in a file of the directory `base`, with the template
    paths seen from there. -/
structure Resolved (base : String) (written c : Config) : Prop where
  formTemplate : SeenFrom base written.formTemplate c.formTemplate
  fieldTemplate : SeenFrom base written.fieldTemplate c.fieldTemplate
  outputFormat : c.outputFormat = written.outputFormat
  submitLabel : c.submitLabel = written.submitLabel
  placeholderAsDefault : c.placeholderAsDefault = written.placeholderAsDefault

theorem seenFrom_join {path : Option String} (h : path ≠ some "") (base : String) :
    SeenFrom base path (path.map (Path.join base)) := by
  cases path with
  | none => exact .unset
  | some p =>
    rw [Option.map_some]
    cases habsolute : Path.isAbsolute p with
    | true =>
      rw [Path.join_of_isAbsolute habsolute]
      exact .absolute habsolute
    | false =>
      refine .relative habsolute ?_
      rintro rfl
      exact h rfl

/-- A path that is seen from somewhere is not empty. -/
theorem SeenFrom.ne_empty {base : String} {written seen : Option String}
    (h : SeenFrom base written seen) : seen ≠ some "" := by
  cases h with
  | unset => simp
  | absolute habsolute =>
    rintro ⟨rfl⟩
    exact absurd habsolute (by decide)
  | relative _ hne =>
    intro hempty
    exact Path.join_ne_empty hne base (Option.some.inj hempty)

theorem resolved_resolve {c : Config} (h : c.validate = .ok ()) (base : String) :
    Resolved base c (c.resolve base) := by
  obtain ⟨-, hform, hfield⟩ := validate_eq_ok_iff.mp h
  exact ⟨seenFrom_join hform base, seenFrom_join hfield base, rfl, rfl, rfl⟩

/-- A valid configuration stays valid when its paths are resolved. -/
theorem Resolved.validate {base : String} {written c : Config} (h : Resolved base written c)
    (hwritten : written.validate = .ok ()) : c.validate = .ok () := by
  obtain ⟨hlabel, -, -⟩ := validate_eq_ok_iff.mp hwritten
  exact validate_eq_ok_iff.mpr
    ⟨h.submitLabel.symm ▸ hlabel, h.formTemplate.ne_empty, h.fieldTemplate.ne_empty⟩

/-! ## Files -/

/-- The file at this path can be read, and its text is that of a valid configuration. -/
def Holds (storage : Storage) (path : String) (written : Config) : Prop :=
  ∃ text, storage.read path = .ok text ∧ ofYaml text = .ok written

/-- No file is named and the usual one is not there. -/
def Absent (storage : Storage) (explicit : Option String) (dir : String) : Prop :=
  explicit = none ∧ storage.isFile (usualPath dir) = false

section

variable {storage : Storage} {path dir : String} {explicit : Option String}

theorem holds_iff {written : Config} :
    Holds storage path written ↔ ∃ text document, storage.read path = .ok text ∧
      Yaml.document? text = some document ∧ ofDocument? document = some written ∧
      written.validate = .ok () := by
  simp only [Holds, ofYaml_eq_ok_iff, exists_and_left]

theorem exists_holds_of_load {c : Config} (h : load storage path = .ok c) :
    ∃ written, Holds storage path written := by
  unfold load at h
  split at h
  · exact absurd h nofun
  · rename_i text hread
    obtain ⟨written, hwritten, -⟩ := map_eq_ok_iff.mp h
    exact ⟨written, text, hread, hwritten⟩

/-- A file in a directory gives its configuration with the paths seen from there. -/
theorem load_of_holds {written : Config} {base : String} (h : Holds storage path written)
    (hparent : Path.parent? path = some base) : load storage path = .ok (written.resolve base) := by
  obtain ⟨text, hread, hwritten⟩ := h
  unfold load
  rw [hread, hparent]
  exact map_eq_ok_iff.mpr ⟨written, hwritten, rfl⟩

/-- A file that holds a configuration lies in a directory. -/
theorem Holds.exists_parent {written : Config} (h : Holds storage path written)
    (hrooted : storage.Rooted) : ∃ base, Path.parent? path = some base := by
  obtain ⟨text, hread, -⟩ := h
  cases hparent : Path.parent? path with
  | none => exact absurd hread (hrooted path hparent text)
  | some base => exact ⟨base, rfl⟩

theorem discover_of_absent (h : Absent storage explicit dir) :
    discover storage explicit dir = .ok {} := by
  obtain ⟨rfl, hfile⟩ := h
  rw [discover, hfile, if_neg Bool.false_ne_true]

theorem discover_of_not_absent (h : ¬Absent storage explicit dir) :
    discover storage explicit dir = load storage (explicit.getD (usualPath dir)) := by
  cases explicit with
  | some path => rfl
  | none =>
    have hfile : storage.isFile (usualPath dir) = true := by
      rw [← Bool.not_eq_false]
      exact fun hfalse => h ⟨rfl, hfalse⟩
    rw [discover, hfile, if_pos rfl]
    rfl

/-- The built-in settings are in use, whatever is in the files, just when no file is looked at. -/
theorem discover_of_any_read_iff :
    (∀ read, discover { storage with read := read } explicit dir = .ok {}) ↔
      Absent storage explicit dir := by
  constructor
  · intro h
    by_contra habsent
    let nothing : Storage := { storage with read := fun _ => .error .notFound }
    have hload : discover nothing explicit dir = load nothing (explicit.getD (usualPath dir)) :=
      discover_of_not_absent habsent
    exact absurd (hload.symm.trans (h nothing.read)) nofun
  · intro h read
    have habsent : Absent { storage with read := read } explicit dir := h
    exact discover_of_absent habsent

end

/-- A configuration that is found is valid. It is the built-in one, whatever is in the files, when
    no file is named and the usual one is not there; otherwise it is the one that is written in the
    file, with the template paths seen from the directory of the file. Only a file that can be read
    and holds a document with a valid configuration gives one, and everything else is a failure of
    the configuration. -/
theorem discover_valid_or_refused {storage : Storage} (hrooted : storage.Rooted)
    (explicit : Option String) (dir : String) :
    let path := explicit.getD (usualPath dir)
    let absent := Absent storage explicit dir
    (∀ c, discover storage explicit dir = .ok c → c.validate = .ok () ∧
      (absent ∧ c = {} ∨ ¬absent ∧ ∃ written base, Holds storage path written ∧
        Path.parent? path = some base ∧ Resolved base written c)) ∧
    ((∀ read, discover { storage with read := read } explicit dir = .ok {}) ↔ absent) ∧
    (¬absent → ((∃ c, discover storage explicit dir = .ok c) ↔
      ∃ text document written, storage.read path = .ok text ∧
        Yaml.document? text = some document ∧ ofDocument? document = some written ∧
        written.validate = .ok ())) ∧
    ∀ f, discover storage explicit dir = .error f → f.kind = .config := by
  intro path absent
  refine ⟨fun c h => ?_, discover_of_any_read_iff, fun habsent => ⟨?_, ?_⟩, fun f h => ?_⟩
  · by_cases habsent : absent
    · rw [discover_of_absent habsent] at h
      obtain rfl := Except.ok.inj h
      exact ⟨validate_builtIn, Or.inl ⟨habsent, rfl⟩⟩
    · rw [discover_of_not_absent habsent] at h
      obtain ⟨written, hwritten⟩ := exists_holds_of_load h
      obtain ⟨base, hparent⟩ := hwritten.exists_parent hrooted
      rw [load_of_holds hwritten hparent] at h
      obtain rfl := Except.ok.inj h
      obtain ⟨text, document, -, -, -, hvalid⟩ := holds_iff.mp hwritten
      have hresolved := resolved_resolve hvalid base
      exact ⟨hresolved.validate hvalid,
        Or.inr ⟨habsent, written, base, hwritten, hparent, hresolved⟩⟩
  · rintro ⟨c, h⟩
    rw [discover_of_not_absent habsent] at h
    obtain ⟨written, hwritten⟩ := exists_holds_of_load h
    obtain ⟨text, document, hread⟩ := holds_iff.mp hwritten
    exact ⟨text, document, written, hread⟩
  · rintro ⟨text, document, written, hread⟩
    have hwritten := holds_iff.mpr ⟨text, document, hread⟩
    obtain ⟨base, hparent⟩ := hwritten.exists_parent hrooted
    exact ⟨_, (discover_of_not_absent habsent).trans (load_of_holds hwritten hparent)⟩
  · exact List.mem_singleton.mp (failsWithin_discover storage explicit dir f h)

/-- A home with a configuration and a file of other bytes in one directory. -/
def home : Tree :=
  .directory [("home", .directory [("conf", .directory
    [("ask.yaml", .file (encodeText "form_template: form.html\nfield_template: /field.html\n")),
      ("odd.yaml", .file [0xFF])])])]

/-- One path is seen from the directory of the file and the other one is absolute; there is no
    usual file; a file that is no text is refused. -/
theorem discover_valid_or_refused_home :
    let storage := home.storage "/home"
    let found : Config :=
      { formTemplate := some "conf/form.html", fieldTemplate := some "/field.html" }
    storage.Rooted ∧
    discover storage (some "conf/ask.yaml") "/home" = .ok found ∧ found.validate = .ok () ∧
    (∀ read, discover { storage with read := read } none "/home" = .ok {}) ∧
    ∃ f, discover storage (some "conf/odd.yaml") "/home" = .error f ∧ f.kind = .config := by
  intro storage found
  have hrooted : storage.Rooted := Tree.rooted_storage home "/home"
  obtain ⟨hvalid, -, -, -⟩ := discover_valid_or_refused hrooted (some "conf/ask.yaml") "/home"
  obtain ⟨-, hbuiltIn, -, -⟩ := discover_valid_or_refused hrooted none "/home"
  obtain ⟨-, -, -, hrefused⟩ := discover_valid_or_refused hrooted (some "conf/odd.yaml") "/home"
  have hfound : discover storage (some "conf/ask.yaml") "/home" = .ok found := by
    have hsome : (discover storage (some "conf/ask.yaml") "/home").toOption = some found := by
      decide +kernel
    cases h : discover storage (some "conf/ask.yaml") "/home" <;> rw [h] at hsome
    · exact absurd hsome nofun
    · exact congrArg Except.ok (Option.some.inj hsome)
  refine ⟨hrooted, hfound, (hvalid found hfound).1, hbuiltIn.mpr ⟨rfl, by decide +kernel⟩, ?_⟩
  have hnone : (discover storage (some "conf/odd.yaml") "/home").toOption = none := by
    decide +kernel
  cases h : discover storage (some "conf/odd.yaml") "/home" with
  | ok c =>
    rw [h] at hnone
    exact absurd hnone nofun
  | error f => exact ⟨f, rfl, hrefused f h⟩

end AskSheet.Config
