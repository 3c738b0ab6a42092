/-
  Recovering a sheet from its built-in page. Escaped text ends where the markup after it begins
  (`join_escape_inj`), a block is there or the page goes on with something else (`join_block_inj`),
  and a field never looks like the button (`fieldTexts_append_inj`). So two sheets with the same
  page are the same, and so are the labels of their buttons (`builtIn_page_inj`).
-/
import AskSheet.Proofs.Page.BuiltIn
import AskSheet.Proofs.Page.Entity
import AskSheet.Proofs.Page.Markup
import AskSheet.Proofs.Text.Lines

namespace AskSheet.Page

open Text

/-! ## Texts one after the other -/

/-- The text begins with a character of markup. -/
def StartsMarkup (text : String) : Prop := text.toList.head?.any isMarkup = true

instance (text : String) : Decidable (StartsMarkup text) := inferInstanceAs (Decidable (_ = true))

section Join

variable {ss ts : List String} {x y : List Char}

theorem toList_join_cons (s : String) (ss : List String) (x : List Char) :
    (String.join (s :: ss)).toList ++ x = s.toList ++ ((String.join ss).toList ++ x) := by
  rw [String.join_cons, String.toList_append, List.append_assoc]

/-- The same text in front of both. -/
theorem join_cons_inj {s : String}
    (h : (String.join (s :: ss)).toList ++ x = (String.join (s :: ts)).toList ++ y) :
    (String.join ss).toList ++ x = (String.join ts).toList ++ y := by
  rw [toList_join_cons, toList_join_cons] at h
  exact List.append_cancel_left h

/-- Escaped text ends where the markup after it begins. -/
theorem join_escape_inj {s t closing : String} (hclosing : StartsMarkup closing)
    (h : (String.join (escape s :: closing :: ss)).toList ++ x =
      (String.join (escape t :: closing :: ts)).toList ++ y) :
    s = t ∧ (String.join ss).toList ++ x = (String.join ts).toList ++ y := by
  rw [toList_join_cons, toList_join_cons, toList_join_cons, toList_join_cons] at h
  cases hc : closing.toList with
  | nil => simp [StartsMarkup, hc] at hclosing
  | cons c cs =>
    have hmarkup : isMarkup c = true := by simpa [StartsMarkup, hc] using hclosing
    rw [hc, List.cons_append, List.cons_append] at h
    obtain ⟨htext, hrest⟩ :=
      append_cons_inj (not_mem_escape hmarkup s) (not_mem_escape hmarkup t) h
    exact ⟨escape_inj (String.toList_inj.mp htext), List.append_cancel_left hrest⟩

theorem join_block_empty (opening closing : String) (ss : List String) :
    String.join (block opening closing (escape "") :: ss) = String.join ss := by
  rw [block, if_pos escape_empty, String.join_cons, String.empty_append]

theorem join_block_of_ne {s : String} (hs : s ≠ "") (opening closing : String) (ss : List String) :
    String.join (block opening closing (escape s) :: ss) =
      String.join (opening :: escape s :: closing :: "\n" :: ss) := by
  rw [block, if_neg (mt escape_eq_empty_iff.mp hs)]
  simp only [String.join_cons, String.append_assoc]

/-- A block is there unless its text is empty, if what follows does not start as a block does. -/
theorem join_block_inj {s t opening closing : String} (hclosing : StartsMarkup closing)
    (hs : ¬opening.toList <+: (String.join ss).toList ++ x)
    (ht : ¬opening.toList <+: (String.join ts).toList ++ y)
    (h : (String.join (block opening closing (escape s) :: ss)).toList ++ x =
      (String.join (block opening closing (escape t) :: ts)).toList ++ y) :
    s = t ∧ (String.join ss).toList ++ x = (String.join ts).toList ++ y := by
  have hstart : ∀ us z, opening.toList <+: (String.join (opening :: us)).toList ++ z := by
    intro us z
    rw [toList_join_cons]
    exact List.prefix_append _ _
  by_cases hempty : s = "" <;> by_cases hempty' : t = ""
  · rw [hempty, hempty', join_block_empty, join_block_empty] at h
    exact ⟨hempty.trans hempty'.symm, h⟩
  · rw [hempty, join_block_empty, join_block_of_ne hempty'] at h
    rw [h] at hs
    exact absurd (hstart _ _) hs
  · rw [hempty', join_block_empty, join_block_of_ne hempty] at h
    rw [← h] at ht
    exact absurd (hstart _ _) ht
  · rw [join_block_of_ne hempty, join_block_of_ne hempty'] at h
    obtain ⟨htext, hrest⟩ := join_escape_inj hclosing (join_cons_inj h)
    exact ⟨htext, join_cons_inj hrest⟩

end Join

/-! ## Fields -/

theorem fieldText_append_inj {p q : Prompt} {number : Nat} {x y : List Char}
    (h : (fieldText p number).toList ++ x = (fieldText q number).toList ++ y) : p = q ∧ x = y := by
  rw [fieldText, fieldText] at h
  have hlabel := join_cons_inj (join_cons_inj (join_cons_inj h))
  obtain ⟨hl, hrest⟩ := join_escape_inj (by decide +kernel) hlabel
  have hplaceholder := join_cons_inj (join_cons_inj (join_cons_inj (join_cons_inj hrest)))
  obtain ⟨hp, hend⟩ := join_escape_inj (by decide +kernel) hplaceholder
  have hprompt : p = q := by
    cases p
    cases q
    dsimp only at hl hp
    rw [hl, hp]
  exact ⟨hprompt, hend⟩

/-- What comes after the fields of a page: the button with this label. -/
def buttonTexts (submit : String) : List String :=
  ["    <input type=\"submit\" value=\"", escape submit, "\">\n</form>\n"]

/-- A field does not start as the button does. -/
theorem fieldText_ne_button (p : Prompt) (number : Nat) (submit : String) (x y : List Char) :
    (fieldText p number).toList ++ x ≠ (String.join (buttonTexts submit)).toList ++ y := by
  intro h
  rw [fieldText, buttonTexts, toList_join_cons, toList_join_cons] at h
  -- behind the indentation stand `<l` and `<i`
  have hsixth := congrArg (fun cs => cs[5]?) h
  exact absurd hsixth (by simp)

theorem fieldTexts_cons_append (p : Prompt) (ps : List Prompt) (number : Nat) (x : List Char) :
    (fieldTexts ((p :: ps).zipIdx number)).toList ++ x =
      (fieldText p number).toList ++ ((fieldTexts (ps.zipIdx (number + 1))).toList ++ x) := by
  rw [fieldTexts, List.zipIdx_cons, List.map_cons, toList_join_cons, fieldTexts]

/-- Fields and the button after them are told apart. -/
theorem fieldTexts_append_inj {ps qs : List Prompt} {first : Nat} {a b : String}
    (h : (fieldTexts (ps.zipIdx first)).toList ++ (String.join (buttonTexts a)).toList =
      (fieldTexts (qs.zipIdx first)).toList ++ (String.join (buttonTexts b)).toList) :
    ps = qs ∧ a = b := by
  induction ps generalizing qs first with
  | nil =>
    cases qs with
    | nil =>
      have hbutton : (String.join (buttonTexts a)).toList ++ [] =
          (String.join (buttonTexts b)).toList ++ [] := by simpa [fieldTexts] using h
      rw [buttonTexts, buttonTexts] at hbutton
      exact ⟨rfl, (join_escape_inj (by decide +kernel) (join_cons_inj hbutton)).1⟩
    | cons q qs =>
      rw [fieldTexts_cons_append] at h
      exact absurd (by simpa [fieldTexts] using h.symm) (fieldText_ne_button q first a _ [])
  | cons p ps ih =>
    cases qs with
    | nil =>
      rw [fieldTexts_cons_append] at h
      exact absurd (by simpa [fieldTexts] using h) (fieldText_ne_button p first b _ [])
    | cons q qs =>
      rw [fieldTexts_cons_append, fieldTexts_cons_append] at h
      obtain ⟨rfl, hrest⟩ := fieldText_append_inj h
      obtain ⟨rfl, rfl⟩ := ih hrest
      exact ⟨rfl, rfl⟩

/-! ## Pages -/

theorem not_description_form (texts : List String) (x : List Char) :
    ¬"<p>".toList <+: (String.join ("<form method=\"post\">\n" :: texts)).toList ++ x := by
  rw [toList_join_cons]
  simp

theorem not_title_description (description : String) (texts : List String) (x : List Char) :
    ¬"<h1>".toList <+: (String.join (block "<p>" "</p>" description ::
      "<form method=\"post\">\n" :: texts)).toList ++ x := by
  rw [toList_join_cons, block]
  split
  · rw [toList_join_cons]
    simp
  · simp

theorem pageText_eq_join (sheet : Sheet) (submit : String) :
    pageText sheet submit = String.join (block "<h1>" "</h1>" (escape sheet.title) ::
      block "<p>" "</p>" (escape sheet.description) :: "<form method=\"post\">\n" ::
        fieldTexts (sheet.prompts.zipIdx 1) :: buttonTexts submit) := rfl

theorem pageText_inj {s t : Sheet} {a b : String} (h : pageText s a = pageText t b) :
    s = t ∧ a = b := by
  have hpage : (pageText s a).toList ++ [] = (pageText t b).toList ++ [] := by rw [h]
  rw [pageText_eq_join, pageText_eq_join] at hpage
  obtain ⟨htitle, hrest⟩ := join_block_inj (by decide +kernel) (not_title_description _ _ _)
    (not_title_description _ _ _) hpage
  obtain ⟨hdescription, hform⟩ := join_block_inj (by decide +kernel) (not_description_form _ _)
    (not_description_form _ _) hrest
  have hfields := join_cons_inj hform
  rw [toList_join_cons, toList_join_cons, List.append_nil, List.append_nil] at hfields
  obtain ⟨hprompts, hsubmit⟩ := fieldTexts_append_inj hfields
  have hsheet : s = t := by
    cases s
    cases t
    dsimp only at htitle hdescription hprompts
    rw [htitle, hdescription, hprompts]
  exact ⟨hsheet, hsubmit⟩

/-- A built-in page says everything: it can be made of every sheet, and only of the same title,
    description, prompts in their order and label of the button comes the same page. -/
theorem builtIn_page_inj (s t : Sheet) (a b : String) :
    ∃ p q, (FormTemplate.builtIn >>= fun template => render s template a) = .ok p ∧
      (FormTemplate.builtIn >>= fun template => render t template b) = .ok q ∧
      (p = q ↔ s = t ∧ a = b) := by
  refine ⟨pageText s a, pageText t b, ?_, ?_, pageText_inj, ?_⟩
  · rw [builtIn_eq]
    exact render_standard s a
  · rw [builtIn_eq]
    exact render_standard t b
  · rintro ⟨rfl, rfl⟩
    rfl

end AskSheet.Page
