/-
  Places in a text, counted in bytes. Two prefixes of one text are prefixes of one another in the
  order of their byte lengths (`prefix_of_byteLength_le`), so a byte offset names at most one place
  between characters, and two offsets name at most one text (`Slice.unique`).
-/
import AskSheet.Text.Basic

namespace AskSheet.Text

theorem byteLength_cons_pos (c : Char) (cs : List Char) : 0 < byteLength (c :: cs) := by
  have := c.utf8Size_pos
  rw [byteLength]
  omega

theorem eq_nil_of_byteLength_eq_zero {cs : List Char} (h : byteLength cs = 0) : cs = [] := by
  cases cs with
  | nil => rfl
  | cons c cs =>
    have := byteLength_cons_pos c cs
    omega

theorem prefix_of_byteLength_le {a b cs : List Char} (ha : a <+: cs) (hb : b <+: cs)
    (h : byteLength a ≤ byteLength b) : a <+: b := by
  rcases List.prefix_or_prefix_of_prefix ha hb with hab | ⟨t, ht⟩
  · exact hab
  · -- `b` is the shorter one, so nothing follows it in `a`
    have hlen : byteLength a = byteLength b + byteLength t := by rw [← ht, byteLength_append]
    have hnil : t = [] := eq_nil_of_byteLength_eq_zero (by omega)
    rw [hnil, List.append_nil] at ht
    exact ht ▸ List.prefix_refl b

/-- A byte offset of a text cuts it in one way. -/
theorem append_inj_of_byteLength {a b x y : List Char} (h : a ++ x = b ++ y)
    (hlen : byteLength a = byteLength b) : a = b ∧ x = y := by
  have ha : a <+: b ++ y := ⟨x, h⟩
  have hb : b <+: b ++ y := List.prefix_append b y
  have hab := prefix_of_byteLength_le ha hb (Nat.le_of_eq hlen)
  have hba := prefix_of_byteLength_le hb ha (Nat.le_of_eq hlen.symm)
  have hsame : a = b := hab.eq_of_length_le hba.length_le
  rw [hsame] at h
  exact ⟨hsame, List.append_cancel_left h⟩

theorem byteLength_le_of_prefix {a b : List Char} (h : a <+: b) : byteLength a ≤ byteLength b := by
  obtain ⟨t, rfl⟩ := h
  rw [byteLength_append]
  omega

/-- The bytes of the source from `i` to `j` are this text. -/
def Slice (source : List Char) (i j : Nat) (cs : List Char) : Prop :=
  ∃ before after, source = before ++ (cs ++ after) ∧ byteLength before = i ∧
    byteLength (before ++ cs) = j

theorem Slice.unique {source cs ds : List Char} {i j : Nat} (hcs : Slice source i j cs)
    (hds : Slice source i j ds) : cs = ds := by
  obtain ⟨before, after, hsource, hi, hj⟩ := hcs
  obtain ⟨before', after', hsource', hi', hj'⟩ := hds
  rw [hsource] at hsource'
  obtain ⟨rfl, hrest⟩ := append_inj_of_byteLength hsource' (hi.trans hi'.symm)
  rw [byteLength_append] at hj hj'
  exact (append_inj_of_byteLength hrest (by omega)).1

end AskSheet.Text
