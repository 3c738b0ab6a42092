/-
  Templates and the names that have values. Whether a template renders depends on these names alone:
  it does just when each of its variables has one of them, and otherwise the first variable that has
  none is blamed (`render_of_known`, `render_of_firstUnknown`). One of the two is the case for every
  source of a template (`known_or_firstUnknown`).
-/
import AskSheet.Proofs.Template.Token

namespace AskSheet.Template

open Text

/-- The error blames the first variable of the source whose name is not known, at the byte position
    of its brace. -/
def FirstUnknown (known : List String) (source : String) (e : TemplateError) : Prop :=
  ∃ before body after, Reads source.toList (before ++ .hole body :: after) [] ∧
    (∀ name ∈ before.filterMap Token.name?, name ∈ known) ∧ nameIn body ∉ known ∧
    e = .undefinedVariable (nameIn body) (byteLength (sourceOf before))

/-- The names that have values. -/
def names (values : Bindings) : List String := values.map Prod.fst

section

variable {values : Bindings}

theorem isSome_lookup_iff {name : String} : (values.lookup name).isSome ↔ name ∈ names values := by
  rw [List.lookup_isSome_iff, names, List.mem_map]
  constructor
  · rintro ⟨p, hp, hname⟩
    exact ⟨p, hp, (beq_iff_eq.mp hname).symm⟩
  · rintro ⟨p, hp, rfl⟩
    exact ⟨p, hp, beq_self_eq_true p.1⟩

/-- Only a variable without a value has no text. -/
theorem Token.isSome_text?_iff (t : Token) :
    (t.text? values).isSome ↔ ∀ name ∈ t.name?, name ∈ names values := by
  cases t with
  | hole body =>
    show (values.lookup (nameIn body)).isSome ↔ ∀ name ∈ some (nameIn body), name ∈ names values
    rw [isSome_lookup_iff]
    exact ⟨fun h name hname => Option.some.inj hname ▸ h, fun h => h _ rfl⟩
  | opening | closing | lone | plain _ => exact ⟨fun _ _ hname => absurd hname nofun, fun _ => rfl⟩

theorem isSome_text?_of_names {ts : List Token}
    (h : ∀ name ∈ ts.filterMap Token.name?, name ∈ names values) :
    ∀ t ∈ ts, (t.text? values).isSome := fun t ht =>
  t.isSome_text?_iff.mpr fun name hname => h name (List.mem_filterMap.mpr ⟨t, ht, hname⟩)

/-- Parts that all have a text are rendered. -/
theorem exists_renderParts {ps : List TemplatePart} (h : ∀ p ∈ ps, (partText? values p).isSome) :
    ∃ text, renderParts values ps = .ok text := by
  induction ps with
  | nil => exact ⟨"", by rw [renderParts]⟩
  | cons p ps ih =>
    obtain ⟨hp, hps⟩ := List.forall_mem_cons.mp h
    obtain ⟨text, htext⟩ := Option.isSome_iff_exists.mp hp
    obtain ⟨rest, hrest⟩ := ih hps
    exact ⟨text ++ rest, by rw [renderParts_cons htext, hrest]; rfl⟩

end

/-- All names are known, or there is a first one that is not. -/
theorem tokens_cases (known : List String) (ts : List Token) :
    (∀ name ∈ ts.filterMap Token.name?, name ∈ known) ∨
      ∃ before body after, ts = before ++ .hole body :: after ∧
        (∀ name ∈ before.filterMap Token.name?, name ∈ known) ∧ nameIn body ∉ known := by
  induction ts with
  | nil => exact Or.inl nofun
  | cons t ts ih =>
    by_cases ht : ∀ name, t.name? = some name → name ∈ known
    · have hcons : ∀ us : List Token, (∀ name ∈ us.filterMap Token.name?, name ∈ known) →
          ∀ name ∈ (t :: us).filterMap Token.name?, name ∈ known := by
        intro us hus
        rw [List.forall_mem_filterMap] at hus ⊢
        exact List.forall_mem_cons.mpr ⟨ht, hus⟩
      rcases ih with hts | ⟨before, body, after, rfl, hbefore, hbody⟩
      · exact Or.inl (hcons ts hts)
      · exact Or.inr ⟨t :: before, body, after, rfl, hcons before hbefore, hbody⟩
    · -- only a variable has a name
      cases t with
      | hole body =>
        refine Or.inr ⟨[], body, ts, rfl, nofun, fun hbody => ht ?_⟩
        rintro name ⟨rfl⟩
        exact hbody
      | opening | closing | lone | plain _ => exact absurd (fun _ h => absurd h nofun) ht

section

variable {source : String} {template : Template}

/-- A template is the parts of the tokens of its source. -/
theorem eq_partsAt_of_parse (h : parse source = .ok template) :
    ∃ ts, Reads source.toList ts [] ∧ template = { parts := partsAt 0 ts } := by
  rcases parse_cases source with ⟨ts, hts, -, hok⟩ | ⟨_, _, e, _, _, _, herror⟩
  · rw [hok] at h
    exact ⟨ts, hts, (Except.ok.inj h).symm⟩
  · rw [herror] at h
    exact absurd h nofun

theorem known_or_firstUnknown (h : parse source = .ok template) (known : List String) :
    (∀ name ∈ template.variableNames, name ∈ known) ∨ ∃ e, FirstUnknown known source e := by
  obtain ⟨ts, hts, rfl⟩ := eq_partsAt_of_parse h
  rw [variableNames_partsAt]
  rcases tokens_cases known ts with hknown | ⟨before, body, after, rfl, hbefore, hbody⟩
  · exact Or.inl hknown
  · exact Or.inr ⟨_, before, body, after, hts, hbefore, hbody, rfl⟩

variable {values : Bindings}

/-- If all names have values, the template renders. -/
theorem render_of_known (h : parse source = .ok template)
    (hknown : ∀ name ∈ template.variableNames, name ∈ names values) :
    ∃ text, template.render values = .ok text := by
  obtain ⟨ts, -, rfl⟩ := eq_partsAt_of_parse h
  rw [variableNames_partsAt] at hknown
  exact exists_renderParts fun p hp => isSome_of_mem_partsAt (isSome_text?_of_names hknown) hp

/-- The first name without a value is blamed, whatever values the others have. -/
theorem render_of_firstUnknown (h : parse source = .ok template) {e : TemplateError}
    (he : FirstUnknown (names values) source e) : template.render values = .error e := by
  obtain ⟨ts, hts, rfl⟩ := eq_partsAt_of_parse h
  obtain ⟨before, body, after, hreads, hbefore, hbody, rfl⟩ := he
  obtain rfl := hts.unique hreads
  have hmissing : values.lookup (nameIn body) = none := by
    rw [← Option.not_isSome_iff_eq_none, isSome_lookup_iff]
    exact hbody
  exact render_of_missing (isSome_text?_of_names hbefore) hmissing after

end

end AskSheet.Template
