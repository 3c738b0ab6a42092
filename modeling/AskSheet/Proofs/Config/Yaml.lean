/-
  Configurations that were written. A configuration is the entries of one mapping, a path that is
  not set being no entry (`toYaml_eq_entries`), and every entry sets in the built-in settings what
  it was written for (`ofEntries_entries`). So a valid configuration is read back as it is
  (`ofYaml_toYaml`), whatever its label and its paths look like.
-/
import AskSheet.Proofs.Config.Valid
import AskSheet.Proofs.Yaml.Mapping

namespace AskSheet.Config

open Yaml

/-! ## Writing -/

/-- The entry with the only setting that is no text. -/
def flagEntry (b : Bool) : Entry :=
  let word := (if b then "true" else "false").toList
  ⟨"placeholder_as_default".toList, .plain, word, word ++ ['\n']⟩

/-- The entry for a path, if it is set. -/
def pathEntries (key : String) (p : Option String) : List Entry := p.toList.map (.ofText key)

/-- The settings one after the other. -/
def entries (c : Config) : List Entry :=
  [.ofText "output_format" c.outputFormat.name, .ofText "submit_label" c.submitLabel] ++
    pathEntries "form_template" c.formTemplate ++ pathEntries "field_template" c.fieldTemplate ++
    [flagEntry c.placeholderAsDefault]

theorem toList_path (key : String) (p : Option String) :
    (toYaml.path key p).toList = (pathEntries key p).flatMap Entry.chars := by
  cases p with
  | none => rfl
  | some s => simp [toYaml.path, pathEntries, Entry.chars_ofText]

theorem toYaml_eq_entries (c : Config) :
    c.toYaml = String.ofList (c.entries.flatMap Entry.chars) := by
  have hflag (b : Bool) : (flagEntry b).chars =
      "placeholder_as_default: ".toList ++ (if b then "true\n" else "false\n").toList := by
    cases b <;> rfl
  apply String.toList_injective
  simp only [toYaml, entries, String.toList_append, String.toList_ofList, List.flatMap_append,
    List.flatMap_cons, List.flatMap_nil, List.append_nil, Entry.chars_ofText, toList_path, hflag,
    List.append_assoc]

/-! ## Valid configurations -/

theorem isRead_flagEntry (b : Bool) : (flagEntry b).IsRead := by
  have hplain : allowsPlain (flagEntry b).text = true := by cases b <;> decide
  have hne : (flagEntry b).text ≠ [] := by cases b <;> decide
  have hkey : IsKey (flagEntry b).key := by cases b <;> decide
  have hadmissible : (flagEntry b).written.all isAdmissible = true := by cases b <;> decide
  exact ⟨hkey, Lexer.readsScalar_plain hne hplain, List.all_eq_true.mp hadmissible⟩

theorem isRead_entries {c : Config} (h : c.validate = .ok ()) : ∀ e ∈ c.entries, e.IsRead := by
  obtain ⟨hlabel, hform, hfield⟩ := validate_eq_ok_iff.mp h
  have hsubmit : c.submitLabel ≠ "" := by
    intro hempty
    rw [hempty] at hlabel
    exact absurd hlabel (by decide)
  have hname : c.outputFormat.name ≠ "" := by cases c.outputFormat <;> decide
  have hpath {key : String} {p : Option String} (hkey : IsKey key.toList) (hp : p ≠ some "") :
      ∀ e ∈ pathEntries key p, e.IsRead := by
    intro e he
    obtain ⟨s, hs, rfl⟩ := List.mem_map.mp he
    refine Entry.isRead_ofText hkey ?_
    rintro rfl
    exact hp (Option.mem_toList.mp hs)
  intro e he
  simp only [entries, List.mem_append, List.mem_cons, List.not_mem_nil, or_false] at he
  rcases he with (((rfl | rfl) | he) | he) | rfl
  · exact Entry.isRead_ofText (by decide) hname
  · exact Entry.isRead_ofText (by decide) hsubmit
  · exact hpath (by decide) hform e he
  · exact hpath (by decide) hfield e he
  · exact isRead_flagEntry c.placeholderAsDefault

/-! ## Reading -/

section

variable {d : Document} {seen : List String} {c c' : Config} {es : List (Node × Node)}

/-- A text that is written for a path is not taken for null. -/
theorem isBareNull_styleOf (s : String) : isBareNull (styleOf s) s = false := by
  rw [isBareNull, Bool.and_eq_false_iff]
  rcases styleOf_cases s with ⟨hstyle, -⟩ | ⟨hstyle, -⟩ | hstyle | ⟨-, -, hambiguous⟩
  · exact Or.inl (by rw [hstyle]; rfl)
  · exact Or.inl (by rw [hstyle]; rfl)
  · exact Or.inl (by rw [hstyle]; rfl)
  · simp only [isAmbiguous, Bool.or_eq_false_iff] at hambiguous
    exact Or.inr (Bool.or_eq_false_iff.mpr hambiguous.1.1.1.1)

theorem accept_format (style : Style) (f : OutputFormat) :
    accept d c "output_format" (.scalar none style f.name) = some { c with outputFormat := f } := by
  cases f <;> rfl

theorem accept_label (style : Style) (s : String) :
    accept d c "submit_label" (.scalar none style s) = some { c with submitLabel := s } :=
  rfl

theorem resolve_path (s : String) :
    (d.resolve (.scalar none (styleOf s) s)).bind path? = some (some s) := by
  show path? (.scalar none (styleOf s) s) = some (some s)
  rw [path?, isBareNull_styleOf]
  rfl

theorem accept_form (s : String) :
    accept d c "form_template" (.scalar none (styleOf s) s) =
      some { c with formTemplate := some s } := by
  rw [accept, resolve_path, Option.map_some]

theorem accept_field (s : String) :
    accept d c "field_template" (.scalar none (styleOf s) s) =
      some { c with fieldTemplate := some s } := by
  rw [accept, resolve_path, Option.map_some]

theorem accept_flag (b : Bool) :
    accept d c "placeholder_as_default" (.scalar none .plain (if b then "true" else "false")) =
      some { c with placeholderAsDefault := b } := by
  cases b <;> rfl

/-- A known key that has not come yet. -/
theorem ofEntries_known {key : String} {value : Node} (hseen : seen.contains key = false)
    (hknown : keys.contains key = true) (haccept : accept d c key value = some c') :
    ofEntries d seen c ((.scalar none .plain key, value) :: es) =
      ofEntries d (key :: seen) c' es := by
  have hguard : (guard ((!seen.contains key) = true) : Option Unit) = some () := by
    rw [hseen]
    rfl
  show ((guard ((!seen.contains key) = true) : Option Unit) >>= _) = _
  rw [hguard]
  show (accept d c key value >>= _) = _
  rw [haccept]
  show ofEntries d (if keys.contains key = true then key :: seen else seen) c' es = _
  rw [if_pos hknown]

theorem nodes_ofText (key value : String) :
    (Entry.ofText key value).nodes =
      (.scalar none .plain key, .scalar none (styleOf value) value) := by
  simp [Entry.nodes, Entry.ofText]

/-- A path that is set has an entry that sets it, and one that is not set has none. -/
theorem ofEntries_pathEntries {key : String} (put : Option String → Config)
    (hseen : seen.contains key = false) (hknown : keys.contains key = true)
    (haccept : ∀ s, accept d (put none) key (.scalar none (styleOf s) s) = some (put (some s)))
    (p : Option String) :
    ofEntries d seen (put none) ((pathEntries key p).map Entry.nodes ++ es) =
      ofEntries d (p.toList.map (fun _ => key) ++ seen) (put p) es := by
  cases p with
  | none => rfl
  | some s =>
    have hentry : (pathEntries key (some s)).map Entry.nodes ++ es =
        (.scalar none .plain key, .scalar none (styleOf s) s) :: es := by
      rw [← nodes_ofText]
      rfl
    rw [hentry, ofEntries_known hseen hknown (haccept s)]
    rfl

/-- The entries of a configuration, one after the other, make it out of the built-in settings. -/
theorem ofEntries_entries (d : Document) (c : Config) :
    ofEntries d [] {} (c.entries.map Entry.nodes) = some c := by
  obtain ⟨format, label, form, field, flag⟩ := c
  have hflag : (flagEntry flag).nodes = (.scalar none .plain "placeholder_as_default",
      .scalar none .plain (if flag then "true" else "false")) := by
    cases flag <;> rfl
  simp only [entries, List.map_append, List.map_cons, List.map_nil, nodes_ofText, hflag,
    List.append_assoc, List.cons_append, List.nil_append]
  refine (ofEntries_known (by decide) (by decide) (accept_format _ format)).trans ?_
  refine (ofEntries_known (by decide) (by decide) (accept_label _ label)).trans ?_
  refine (ofEntries_pathEntries (fun p => ⟨format, label, p, none, false⟩) (by decide) (by decide)
    accept_form form).trans ?_
  refine (ofEntries_pathEntries (fun p => ⟨format, label, form, p, false⟩) ?_ (by decide)
    accept_field field).trans ?_
  · cases form <;> rfl
  refine ofEntries_known ?_ (by decide) (accept_flag flag)
  cases form <;> cases field <;> rfl

end

/-- A valid configuration is read back from the document that is written for it. -/
theorem ofYaml_toYaml (c : Config) (h : c.validate = .ok ()) : ofYaml c.toYaml = .ok c := by
  have hread : (document? c.toYaml).bind ofDocument? = some c := by
    rw [toYaml_eq_entries, document?_entries (by simp [entries]) (isRead_entries h),
      Option.bind_some, ofDocument?]
    exact ofEntries_entries _ c
  rw [ofYaml, hread]
  dsimp only
  rw [h]
  rfl

/-- A label with a break, quotes and a control character, and paths that look like null and a
    number. -/
theorem ofYaml_toYaml_quoted :
    let c : Config := ⟨.text, " it's \"a: b\" # c\x07\n", some "null", some "-0x1F", true⟩
    c.validate = .ok () ∧ ofYaml c.toYaml = .ok c :=
  ⟨rfl, ofYaml_toYaml _ rfl⟩

end AskSheet.Config
