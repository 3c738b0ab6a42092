/-
  What escaped text looks like. It holds no markup, and each ampersand in it starts one of five
  entities (`Escaped`). Every text of this kind is the escaped form of the text that it is read as
  (`flatMap_entity_unescape`): a reader that has passed over an entity stands before text of this
  kind again. So `escape` gives the one safe form in which a text can be read back
  (`escape_safe_and_reversible`).
-/
import AskSheet.Proofs.Page.Entity
import AskSheet.Proofs.Page.Markup
import AskSheet.Proofs.Text.Lines

namespace AskSheet.Page

open Text

/-- The entities that stand for a character. -/
def entities : List String := ["&amp;", "&lt;", "&gt;", "&quot;", "&#39;"]

/-- Text without markup, in which every ampersand starts an entity. -/
structure Escaped (cs : List Char) : Prop where
  no_markup : ∀ c ∈ cs, isMarkup c = false
  ampersand : ∀ after, '&' :: after <:+ cs → ∃ e ∈ entities, e.toList <+: '&' :: after

/-! ## Entities -/

/-- Ampersands and markup are written as entities and everything else as itself. -/
theorem entity_cases (c : Char) :
    (∃ e ∈ entities, entity c = e.toList ∧ (c = '&' ∨ isMarkup c = true)) ∨
      (c ≠ '&' ∧ entity c = [c]) := by
  unfold entity
  split
  · exact Or.inl ⟨"&amp;", by decide, rfl, Or.inl rfl⟩
  · exact Or.inl ⟨"&lt;", by decide, rfl, Or.inr rfl⟩
  · exact Or.inl ⟨"&gt;", by decide, rfl, Or.inr rfl⟩
  · exact Or.inl ⟨"&quot;", by decide, rfl, Or.inr rfl⟩
  · exact Or.inl ⟨"&#39;", by decide, rfl, Or.inr rfl⟩
  · rename_i hamp _ _ _ _
    exact Or.inr ⟨hamp, rfl⟩

theorem entity_of_ne {c : Char} (hamp : c ≠ '&') (hmarkup : isMarkup c = false) :
    entity c = [c] := by
  rcases entity_cases c with ⟨e, -, -, hc | hc⟩ | ⟨-, heq⟩
  · exact absurd hc hamp
  · exact absurd (hmarkup.symm.trans hc) Bool.false_ne_true
  · exact heq

/-- An entity starts with its only ampersand. -/
theorem exists_name_of_mem_entities {e : String} (h : e ∈ entities) :
    ∃ name, e.toList = '&' :: name ∧ '&' ∉ name := by
  refine ⟨e.toList.tail, ?_⟩
  revert e
  decide +kernel

/-! ## Escaped text -/

theorem escaped_nil : Escaped [] where
  no_markup := fun _ h => absurd h List.not_mem_nil
  ampersand := fun _ h => absurd (List.suffix_nil.mp h) (List.cons_ne_nil _ _)

theorem Escaped.of_suffix {cs ds : List Char} (h : Escaped cs) (hs : ds <:+ cs) : Escaped ds where
  no_markup := fun c hc => h.no_markup c (hs.subset hc)
  ampersand := fun after ha => h.ampersand after (ha.trans hs)

/-- The written form of one more character keeps text escaped. -/
theorem Escaped.entity_append {cs : List Char} (h : Escaped cs) (c : Char) :
    Escaped (entity c ++ cs) where
  no_markup := by
    intro d hd
    rcases List.mem_append.mp hd with hd | hd
    · exact Bool.eq_false_iff.mpr (List.filter_eq_nil_iff.mp (filter_entity c) d hd)
    · exact h.no_markup d hd
  ampersand := by
    intro after hafter
    rcases entity_cases c with ⟨e, he, heq, -⟩ | ⟨hamp, heq⟩
    · obtain ⟨name, hname, hnot⟩ := exists_name_of_mem_entities he
      rw [heq, hname, List.cons_append] at hafter
      rcases List.suffix_cons_iff.mp hafter with hstart | hlater
      · refine ⟨e, he, ?_⟩
        rw [hstart, hname, ← List.cons_append]
        exact List.prefix_append _ _
      · exact h.ampersand after (suffix_of_suffix_append hlater hnot)
    · rw [heq] at hafter
      have hnot : '&' ∉ [c] := fun hmem => hamp (List.mem_singleton.mp hmem).symm
      exact h.ampersand after (suffix_of_suffix_append hafter hnot)

theorem escaped_flatMap_entity (cs : List Char) : Escaped (cs.flatMap entity) := by
  induction cs with
  | nil => exact escaped_nil
  | cons c cs ih =>
    rw [List.flatMap_cons]
    exact ih.entity_append c

/-- Escaped text is what its reading is written as. -/
theorem flatMap_entity_unescape {cs : List Char} (h : Escaped cs) :
    (unescape cs).flatMap entity = cs := by
  fun_induction unescape cs with
  | case1 => rfl
  | case2 cs ih | case3 cs ih | case4 cs ih | case5 cs ih | case6 cs ih =>
    have htail : Escaped cs := h.of_suffix (by simp [List.suffix_cons_iff])
    rw [List.flatMap_cons, ih htail]
    rfl
  | case7 c cs hamp hlt hgt hquot hapos ih =>
    -- no entity stands here, so this is no ampersand
    have hne : c ≠ '&' := by
      rintro rfl
      obtain ⟨e, he, hprefix⟩ := h.ampersand cs (List.suffix_refl _)
      simp only [entities, List.mem_cons, List.not_mem_nil, or_false] at he
      obtain ⟨rest, hrest⟩ := hprefix
      rcases he with rfl | rfl | rfl | rfl | rfl
      · exact hamp rest rfl (List.cons.inj hrest).2.symm
      · exact hlt rest rfl (List.cons.inj hrest).2.symm
      · exact hgt rest rfl (List.cons.inj hrest).2.symm
      · exact hquot rest rfl (List.cons.inj hrest).2.symm
      · exact hapos rest rfl (List.cons.inj hrest).2.symm
    rw [List.flatMap_cons, entity_of_ne hne (h.no_markup c List.mem_cons_self),
      ih (h.of_suffix (List.suffix_cons c cs)), List.singleton_append]

/-- Escaped text holds no markup, and each ampersand in it starts an entity; reading the entities in
    one pass gives the text back, whatever the text itself looks like. No other text of this kind
    reads as the same text. -/
theorem escape_safe_and_reversible (s : String) :
    Escaped (escape s).toList ∧ unescape (escape s).toList = s.toList ∧
    ∀ cs, Escaped cs → unescape cs = s.toList → cs = (escape s).toList := by
  refine ⟨?_, unescape_escape s, fun cs hcs hread => ?_⟩
  · rw [escape, String.toList_ofList]
    exact escaped_flatMap_entity s.toList
  · rw [escape, String.toList_ofList, ← hread, flatMap_entity_unescape hcs]

example : escape "&lt; & <b title='x'>" = "&amp;lt; &amp; &lt;b title=&#39;x&#39;&gt;" := by decide

end AskSheet.Page
