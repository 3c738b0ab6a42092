/-
  Tokens of templates. A source is read from left to right as doubled braces, closing braces on their
  own, variables in braces and other characters, and in one way only (`Reads.unique`). Reading goes on
  to the end or to a variable that has no closing brace or no name (`exists_reads`), and
  `Template.parse` gives the parts of the tokens or blames that variable (`parse_by_tokens`).
-/
import AskSheet.Proofs.Template.Rendering
import AskSheet.Proofs.Text.Lines
import AskSheet.Proofs.Text.Octets
import AskSheet.Proofs.Text.Trim

namespace AskSheet.Template

open Text

/-- What the source of a template is made of. -/
inductive Token where
  | opening
  | closing
  | lone
  | hole (body : List Char)
  | plain (c : Char)
  deriving DecidableEq, Repr

/-- The name that a body stands for. -/
def nameIn (body : List Char) : String := trim (String.ofList body)

namespace Token

/-- The characters of a token. -/
def source : Token → List Char
  | opening => ['{', '{']
  | closing => ['}', '}']
  | lone => ['}']
  | hole body => '{' :: (body ++ ['}'])
  | plain c => [c]

/-- The token is what stands before these characters. Two braces of a kind are never read one by one,
    and a variable ends at the first closing brace. -/
def Fits (rest : List Char) : Token → Prop
  | opening | closing => True
  | lone => rest.head? ≠ some '}'
  | hole body => body.head? ≠ some '{' ∧ '}' ∉ body
  | plain c => c ≠ '{' ∧ c ≠ '}'

/-- A variable has a name. -/
def Sound : Token → Prop
  | hole body => nameIn body ≠ ""
  | _ => True

instance (rest : List Char) (t : Token) : Decidable (t.Fits rest) := by
  cases t <;> unfold Fits <;> infer_instance

instance : DecidablePred Sound := fun t => by
  cases t <;> unfold Sound <;> infer_instance

/-- The name of a variable. -/
def name? : Token → Option String
  | hole body => some (nameIn body)
  | _ => none

/-- What a token renders to, if its variable has a value. -/
def text? (values : Bindings) : Token → Option String
  | opening => some (String.singleton '{')
  | closing | lone => some (String.singleton '}')
  | hole body => values.lookup (nameIn body)
  | plain c => some (String.singleton c)

/-- The part of a template that a token at this byte position is. -/
def part (position : Nat) : Token → TemplatePart
  | opening => .literal '{'
  | closing | lone => .literal '}'
  | hole body => .variable (nameIn body) position
  | plain c => .literal c

end Token

/-- The characters of tokens. -/
def sourceOf (tokens : List Token) : List Char := tokens.flatMap Token.source

/-- The parts of tokens that start at this byte position. -/
def partsAt (position : Nat) : List Token → List TemplatePart
  | [] => []
  | t :: ts => t.part position :: partsAt (position + byteLength t.source) ts

/-- From the start of the characters these tokens are read, and the rest is left. -/
inductive Reads : List Char → List Token → List Char → Prop
  | stop (cs : List Char) : Reads cs [] cs
  | step {t : Token} {cs rest : List Char} {ts : List Token} : t.Fits cs → Reads cs ts rest →
      Reads (t.source ++ cs) (t :: ts) rest

/-- What is wrong with a variable that these characters start with, at this byte position. -/
inductive Fault (position : Nat) : List Char → TemplateError → Prop
  | unmatched {cs : List Char} : cs.head? ≠ some '{' → '}' ∉ cs →
      Fault position ('{' :: cs) (.unmatchedBrace position)
  | blank {body rest : List Char} : body.head? ≠ some '{' → '}' ∉ body → nameIn body = "" →
      Fault position ('{' :: (body ++ '}' :: rest)) (.emptyVariableName position)

/-! ## Reading is determined -/

theorem Token.source_ne_nil (t : Token) : t.source ≠ [] := by
  cases t <;> exact List.cons_ne_nil _ _

/-- A variable does not start with a doubled brace. -/
theorem head?_body_ne {body : List Char} (h : body.head? ≠ some '{') (rest : List Char) :
    (body ++ '}' :: rest).head? ≠ some '{' := by
  cases body with
  | nil => simp
  | cons c body => exact h

/-- Characters start with one token only. -/
theorem Token.source_append_inj {t u : Token} {cs ds : List Char} (ht : t.Fits cs) (hu : u.Fits ds)
    (h : t.source ++ cs = u.source ++ ds) : t = u ∧ cs = ds := by
  cases t <;> cases u
  case hole.hole body body' =>
    have hbody : body ++ '}' :: cs = body' ++ '}' :: ds := by simpa [source] using h
    obtain ⟨rfl, rfl⟩ := append_cons_inj ht.2 hu.2 hbody
    exact ⟨rfl, rfl⟩
  case opening.hole body =>
    have hbody : '{' :: cs = body ++ '}' :: ds := by simpa [source] using h
    exact absurd (hbody ▸ rfl) (head?_body_ne hu.1 ds)
  case hole.opening body =>
    have hbody : body ++ '}' :: cs = '{' :: ds := by simpa [source] using h
    exact absurd (hbody ▸ rfl) (head?_body_ne ht.1 cs)
  all_goals grind [source, Fits]

/-- The characters that are read and those that are left are all there are. -/
theorem Reads.eq_append {cs rest : List Char} {ts : List Token} (h : Reads cs ts rest) :
    cs = sourceOf ts ++ rest := by
  induction h with
  | stop cs => rfl
  | step _ _ ih => rw [ih, sourceOf, sourceOf, List.flatMap_cons, List.append_assoc]

theorem reads_cons_iff {cs rest : List Char} {t : Token} {ts : List Token} :
    Reads cs (t :: ts) rest ↔ ∃ ds, cs = t.source ++ ds ∧ t.Fits ds ∧ Reads ds ts rest := by
  constructor
  · rintro (_ | ⟨hfits, hts⟩)
    exact ⟨_, rfl, hfits, hts⟩
  · rintro ⟨ds, rfl, hfits, hts⟩
    exact .step hfits hts

theorem not_reads_nil_cons {rest : List Char} {t : Token} {ts : List Token} :
    ¬ Reads [] (t :: ts) rest := by
  intro h
  obtain ⟨ds, hnil, -⟩ := reads_cons_iff.mp h
  exact t.source_ne_nil (List.append_eq_nil_iff.mp hnil.symm).1

/-- A source is read to its end in one way only. -/
theorem Reads.unique {cs : List Char} {ts us : List Token} (hts : Reads cs ts [])
    (hus : Reads cs us []) : ts = us := by
  induction ts generalizing cs us with
  | nil =>
    cases hts
    cases us with
    | nil => rfl
    | cons u us => exact absurd hus not_reads_nil_cons
  | cons t ts ih =>
    cases us with
    | nil =>
      cases hus
      exact absurd hts not_reads_nil_cons
    | cons u us =>
      obtain ⟨ds, rfl, ht, hts⟩ := reads_cons_iff.mp hts
      obtain ⟨es, heq, hu, hus⟩ := reads_cons_iff.mp hus
      obtain ⟨rfl, rfl⟩ := Token.source_append_inj ht hu heq
      rw [ih hts hus]

/-- Characters that are left start with a token or with a faulty variable. -/
theorem exists_token (cs : List Char) (hne : cs ≠ []) :
    (∃ (t : Token) (ds : List Char), cs = t.source ++ ds ∧ t.Fits ds ∧ t.Sound) ∨
      ∀ position, ∃ e, Fault position cs e := by
  obtain ⟨c, cs, rfl⟩ := List.exists_cons_of_ne_nil hne
  by_cases hopen : c = '{'
  · subst hopen
    by_cases hdouble : cs.head? = some '{'
    · obtain ⟨ds, rfl⟩ := List.head?_eq_some_iff.mp hdouble
      exact Or.inl ⟨.opening, ds, rfl, trivial, trivial⟩
    · by_cases hclose : '}' ∈ cs
      · obtain ⟨body, ds, rfl, hbody⟩ := List.eq_append_cons_of_mem hclose
        have hhead : body.head? ≠ some '{' := by
          intro h
          rw [List.head?_append, h] at hdouble
          exact hdouble rfl
        by_cases hname : nameIn body = ""
        · exact Or.inr fun position => ⟨_, .blank hhead hbody hname⟩
        · refine Or.inl ⟨.hole body, ds, ?_, ⟨hhead, hbody⟩, hname⟩
          simp [Token.source]
      · exact Or.inr fun position => ⟨_, .unmatched hdouble hclose⟩
  · by_cases hclose : c = '}'
    · subst hclose
      by_cases hdouble : cs.head? = some '}'
      · obtain ⟨ds, rfl⟩ := List.head?_eq_some_iff.mp hdouble
        exact Or.inl ⟨.closing, ds, rfl, trivial, trivial⟩
      · exact Or.inl ⟨.lone, cs, rfl, hdouble, trivial⟩
    · exact Or.inl ⟨.plain c, cs, rfl, ⟨hopen, hclose⟩, trivial⟩

/-- Reading goes on to the end or to a faulty variable. -/
theorem exists_reads (cs : List Char) : ∃ ts left, Reads cs ts left ∧ (∀ t ∈ ts, t.Sound) ∧
    (left = [] ∨ ∀ position, ∃ e, Fault position left e) := by
  induction h : cs.length using Nat.strongRecOn generalizing cs with
  | ind n ih =>
    by_cases hne : cs = []
    · exact ⟨[], cs, .stop cs, nofun, Or.inl hne⟩
    · rcases exists_token cs hne with ⟨t, ds, rfl, hfits, hsound⟩ | hfault
      · have hpos := List.length_pos_iff.mpr t.source_ne_nil
        rw [List.length_append] at h
        obtain ⟨ts, left, hts, hall, hleft⟩ := ih ds.length (by omega) ds rfl
        exact ⟨t :: ts, left, .step hfits hts, List.forall_mem_cons.mpr ⟨hsound, hall⟩, hleft⟩
      · exact ⟨[], cs, .stop cs, nofun, Or.inr hfault⟩

/-! ## Parsing -/

theorem nameIn_eq_empty_iff {body : List Char} : nameIn body = "" ↔ body.all isBlank = true :=
  trim_ofList_eq_empty_iff

/-- A character that is neither an opening brace nor the first of two closing ones is copied. -/
theorem partsFrom_single {c : Char} {cs : List Char} (hopen : c ≠ '{')
    (hclose : c = '}' → cs.head? ≠ some '}') (position : Nat) :
    partsFrom position (c :: cs) =
      (partsFrom (position + c.utf8Size) cs).map (.literal c :: ·) := by
  rw [partsFrom]
  · cases partsFrom (position + c.utf8Size) cs <;> rfl
  · exact fun _ hc _ => hopen hc
  · exact hopen
  · intro ds hc hcs
    rw [hcs] at hclose
    exact hclose hc rfl

theorem body?_append {body : List Char} (h : '}' ∉ body) (rest : List Char) :
    body? (body ++ '}' :: rest) = some (body, rest) := by
  induction body with
  | nil => rw [List.nil_append, body?, if_pos rfl]
  | cons c body ih =>
    obtain ⟨hc, hbody⟩ := not_or.mp (mt List.mem_cons.mpr h)
    rw [List.cons_append, body?, if_neg (Ne.symm hc), ih hbody]
    rfl

theorem body?_eq_none {cs : List Char} (h : '}' ∉ cs) : body? cs = none := by
  cases hbody : body? cs with
  | none => rfl
  | some found =>
    rw [eq_of_body? hbody] at h
    exact absurd (List.mem_append_right _ List.mem_cons_self) h

/-- An opening brace on its own starts a variable, which is named by what its body is trimmed to. -/
theorem partsFrom_brace {cs : List Char} (h : cs.head? ≠ some '{') (position : Nat) :
    partsFrom position ('{' :: cs) = match body? cs with
      | none => .error (.unmatchedBrace position)
      | some (body, rest) =>
        if nameIn body = "" then .error (.emptyVariableName position)
        else (partsFrom (position + byteLength body + 2) rest).map
          (.variable (nameIn body) position :: ·) := by
  rw [partsFrom]
  · split
    · rename_i hbody
      rw [hbody]
    · rename_i body rest hbody
      have hname : String.ofList (trimChars body) = nameIn body := ofList_trimChars body
      simp only [hbody, hname, ← nameIn_eq_empty_iff]
      cases partsFrom (position + byteLength body + 2) rest <;> rfl
  · intro ds hds
    rw [hds] at h
    exact h rfl

/-- A token is read as its part. -/
theorem partsFrom_token {t : Token} {cs : List Char} (hfits : t.Fits cs) (hsound : t.Sound)
    (position : Nat) : partsFrom position (t.source ++ cs) =
      (partsFrom (position + byteLength t.source) cs).map (t.part position :: ·) := by
  cases t with
  | opening =>
    show partsFrom position ('{' :: '{' :: cs) = (partsFrom (position + 2) cs).map _
    rw [partsFrom]
    cases partsFrom (position + 2) cs <;> rfl
  | closing =>
    show partsFrom position ('}' :: '}' :: cs) = (partsFrom (position + 2) cs).map _
    rw [partsFrom]
    cases partsFrom (position + 2) cs <;> rfl
  | lone => exact partsFrom_single (by decide) (fun _ => hfits) position
  | hole body =>
    have hsource : (Token.hole body).source ++ cs = '{' :: (body ++ '}' :: cs) := by
      simp [Token.source]
    have hlen : byteLength (Token.hole body).source = byteLength body + 2 := by
      rw [Token.source, byteLength, byteLength_append]
      show 1 + (byteLength body + 1) = _
      omega
    rw [hsource, hlen, partsFrom_brace (head?_body_ne hfits.1 cs), body?_append hfits.2]
    exact if_neg hsound
  | plain c => exact partsFrom_single hfits.1 (fun hc => absurd hc hfits.2) position

/-- Tokens are read as their parts. -/
theorem partsFrom_of_reads {cs left : List Char} {ts : List Token} (h : Reads cs ts left)
    (hsound : ∀ t ∈ ts, t.Sound) (position : Nat) : partsFrom position cs =
      (partsFrom (position + byteLength (sourceOf ts)) left).map (partsAt position ts ++ ·) := by
  induction h generalizing position with
  | stop cs =>
    show _ = (partsFrom position cs).map id
    cases partsFrom position cs <;> rfl
  | @step t cs left ts hfits hts ih =>
    obtain ⟨ht, hrest⟩ := List.forall_mem_cons.mp hsound
    have hlen : position + byteLength (sourceOf (t :: ts)) =
        position + byteLength t.source + byteLength (sourceOf ts) := by
      rw [sourceOf, List.flatMap_cons, byteLength_append, Nat.add_assoc]
      rfl
    rw [partsFrom_token hfits ht, ih hrest, hlen]
    cases partsFrom (position + byteLength t.source + byteLength (sourceOf ts)) left <;> rfl

/-- A faulty variable is blamed. -/
theorem partsFrom_of_fault {position : Nat} {cs : List Char} {e : TemplateError}
    (h : Fault position cs e) : partsFrom position cs = .error e := by
  cases h with
  | unmatched hhead hbody => rw [partsFrom_brace hhead, body?_eq_none hbody]
  | @blank body rest hhead hbody hname =>
    rw [partsFrom_brace (head?_body_ne hhead rest), body?_append hbody]
    exact if_pos hname

section

variable {source : String} {ts : List Token}

theorem parse_of_reads (h : Reads source.toList ts []) (hsound : ∀ t ∈ ts, t.Sound) :
    parse source = .ok { parts := partsAt 0 ts } := by
  rw [parse, partsFrom_of_reads h hsound, partsFrom]
  show Except.ok (Template.mk (partsAt 0 ts ++ [])) = _
  rw [List.append_nil]

theorem parse_of_fault {left : List Char} {e : TemplateError} (h : Reads source.toList ts left)
    (hsound : ∀ t ∈ ts, t.Sound) (hfault : Fault (byteLength (sourceOf ts)) left e) :
    parse source = .error e := by
  rw [parse, partsFrom_of_reads h hsound, Nat.zero_add, partsFrom_of_fault hfault]
  rfl

end

/-- Either all of the source is read as tokens, or a faulty variable follows those that are read. -/
theorem parse_cases (source : String) :
    (∃ ts, Reads source.toList ts [] ∧ (∀ t ∈ ts, t.Sound) ∧
      parse source = .ok { parts := partsAt 0 ts }) ∨
    ∃ ts left e, Reads source.toList ts left ∧ (∀ t ∈ ts, t.Sound) ∧
      Fault (byteLength (sourceOf ts)) left e ∧ parse source = .error e := by
  obtain ⟨ts, left, hts, hsound, rfl | hfault⟩ := exists_reads source.toList
  · exact Or.inl ⟨ts, hts, hsound, parse_of_reads hts hsound⟩
  · obtain ⟨e, he⟩ := hfault (byteLength (sourceOf ts))
    exact Or.inr ⟨ts, left, e, hts, hsound, he, parse_of_fault hts hsound he⟩

/-! ## The parts of tokens -/

section

variable {values : Bindings}

theorem partText?_part (t : Token) (position : Nat) :
    partText? values (t.part position) = t.text? values := by
  cases t <;> rfl

theorem mapM_partsAt (ts : List Token) (position : Nat) :
    (partsAt position ts).mapM (partText? values) = ts.mapM (Token.text? values) := by
  induction ts generalizing position with
  | nil => rfl
  | cons t ts ih => rw [partsAt, List.mapM_cons, List.mapM_cons, partText?_part, ih]

theorem isSome_of_mem_partsAt {ts : List Token} (h : ∀ t ∈ ts, (t.text? values).isSome)
    {position : Nat} {p : TemplatePart} (hp : p ∈ partsAt position ts) :
    (partText? values p).isSome := by
  induction ts generalizing position with
  | nil => exact absurd hp List.not_mem_nil
  | cons t ts ih =>
    obtain ⟨ht, hts⟩ := List.forall_mem_cons.mp h
    rcases List.mem_cons.mp hp with rfl | hp
    · rwa [partText?_part]
    · exact ih hts hp

end

theorem partsAt_append (position : Nat) (ts us : List Token) : partsAt position (ts ++ us) =
    partsAt position ts ++ partsAt (position + byteLength (sourceOf ts)) us := by
  induction ts generalizing position with
  | nil => rfl
  | cons t ts ih =>
    rw [List.cons_append, partsAt, partsAt, ih, List.cons_append, sourceOf, sourceOf,
      List.flatMap_cons, byteLength_append, Nat.add_assoc]

theorem variableNames_partsAt (ts : List Token) (position : Nat) :
    variableNames { parts := partsAt position ts } = ts.filterMap Token.name? := by
  induction ts generalizing position with
  | nil => rfl
  | cons t ts ih =>
    have htail := ih (position + byteLength t.source)
    cases t with
    | hole body => exact congrArg (nameIn body :: ·) htail
    | opening | closing | lone | plain _ => exact htail

/-- The first variable without a value is blamed at the byte position of its brace. -/
theorem render_of_missing {values : Bindings} {before : List Token} {body : List Char}
    (hbefore : ∀ t ∈ before, (t.text? values).isSome) (hmissing : values.lookup (nameIn body) = none)
    (after : List Token) : render { parts := partsAt 0 (before ++ .hole body :: after) } values =
      .error (.undefinedVariable (nameIn body) (byteLength (sourceOf before))) := by
  rw [render, partsAt_append, Nat.zero_add]
  exact renderParts_of_missing (fun p hp => isSome_of_mem_partsAt hbefore hp) hmissing _ _

/-- A source is a template just when all of it is read as tokens whose variables have names, and
    there is one way to read it. The template has the names of the variables in their order. It
    renders to the texts and values of the tokens, or blames the first variable without a value at
    the byte position of its brace. A source that is no template is blamed for its first faulty
    variable, at the byte position of its brace, for having no closing brace or no name. -/
theorem parse_by_tokens (source : String) :
    ((∃ template, parse source = .ok template) ↔
      ∃ ts, Reads source.toList ts [] ∧ ∀ t ∈ ts, t.Sound) ∧
    (∀ ts us, Reads source.toList ts [] → Reads source.toList us [] → ts = us) ∧
    (∀ template ts, parse source = .ok template → Reads source.toList ts [] →
      template.variableNames = ts.filterMap Token.name? ∧
      ∀ values : Bindings,
        (∀ texts, ts.mapM (Token.text? values) = some texts →
          template.render values = .ok (String.join texts)) ∧
        ∀ before body after, ts = before ++ .hole body :: after →
          (∀ t ∈ before, (t.text? values).isSome) → values.lookup (nameIn body) = none →
          template.render values =
            .error (.undefinedVariable (nameIn body) (byteLength (sourceOf before)))) ∧
    ∀ e, parse source = .error e ↔ ∃ ts left, Reads source.toList ts left ∧
      (∀ t ∈ ts, t.Sound) ∧ Fault (byteLength (sourceOf ts)) left e := by
  refine ⟨⟨?_, ?_⟩, fun ts us => Reads.unique, ?_, fun e => ⟨?_, ?_⟩⟩
  · rintro ⟨template, hparse⟩
    rcases parse_cases source with ⟨ts, hts, hsound, -⟩ | ⟨_, _, e, _, _, _, herror⟩
    · exact ⟨ts, hts, hsound⟩
    · rw [herror] at hparse
      exact absurd hparse nofun
  · rintro ⟨ts, hts, hsound⟩
    exact ⟨_, parse_of_reads hts hsound⟩
  · intro template ts hparse hts
    have htemplate : template = { parts := partsAt 0 ts } := by
      rcases parse_cases source with ⟨us, hus, -, hok⟩ | ⟨_, _, e, _, _, _, herror⟩
      · rw [hok] at hparse
        rw [hts.unique hus, ← Except.ok.inj hparse]
      · rw [herror] at hparse
        exact absurd hparse nofun
    subst htemplate
    refine ⟨variableNames_partsAt ts 0, fun values => ⟨fun texts htexts => ?_, ?_⟩⟩
    · rw [← mapM_partsAt ts 0] at htexts
      exact renderParts_of_texts htexts
    · rintro before body after rfl hbefore hmissing
      exact render_of_missing hbefore hmissing after
  · intro hparse
    rcases parse_cases source with ⟨_, _, _, hok⟩ | ⟨ts, left, e', hts, hsound, hfault, herror⟩
    · rw [hok] at hparse
      exact absurd hparse nofun
    · rw [herror] at hparse
      obtain rfl := Except.error.inj hparse
      exact ⟨ts, left, hts, hsound, hfault⟩
  · rintro ⟨ts, left, hts, hsound, hfault⟩
    exact parse_of_fault hts hsound hfault

/-- Braces of all kinds around a variable whose name holds one. -/
def manyBraces : List Token := [.plain 'é', .opening, .hole [' ', '{', 'a'], .closing, .lone]

theorem reads_manyBraces : Reads (sourceOf manyBraces) manyBraces [] :=
  .step (by decide) <| .step trivial <| .step (by decide) <| .step trivial <|
    .step (by decide) <| .stop []

theorem parse_by_tokens_braces :
    let source := String.ofList (sourceOf manyBraces)
    source = "é\x7b\x7b\x7b \x7ba\x7d\x7d\x7d\x7d" ∧
    ∃ template, parse source = .ok template ∧ template.variableNames = ["\x7ba"] ∧
      template.render [("\x7ba", "\x7d")] = .ok "é\x7b\x7d\x7d\x7d" ∧
      template.render [] = .error (.undefinedVariable "\x7ba" 4) := by
  intro source
  have hreads : Reads source.toList manyBraces [] := by
    rw [String.toList_ofList]
    exact reads_manyBraces
  obtain ⟨hparses, -, hrenders, -⟩ := parse_by_tokens source
  obtain ⟨template, hparse⟩ := hparses.mpr ⟨manyBraces, hreads, by decide +kernel⟩
  obtain ⟨hnames, hvalues⟩ := hrenders template manyBraces hparse hreads
  refine ⟨by decide +kernel, template, hparse, hnames.trans (by decide +kernel), ?_, ?_⟩
  · exact (hvalues _).1 ["é", "\x7b", "\x7d", "\x7d", "\x7d"] (by decide +kernel)
  · exact (hvalues []).2 [.plain 'é', .opening] [' ', '{', 'a'] [.closing, .lone] rfl
      (by decide +kernel) rfl

end AskSheet.Template
