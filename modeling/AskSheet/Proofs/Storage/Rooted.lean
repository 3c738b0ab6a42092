/-
  Which paths can lead to a text. A path without a parent is the root or nothing at all
  (`Path.idle_of_parent?_eq_none`), and the root is a directory. So there is no text at such a path
  (`Storage.Rooted`), whatever a tree holds (`Tree.rooted_storage`).
-/
import AskSheet.Proofs.Text.Encoding
import AskSheet.Storage.Tree
import Mathlib.Data.List.TakeWhile

namespace AskSheet

/-- No text is read from a path without a parent, which is the root or empty. -/
def Storage.Rooted (storage : Storage) : Prop :=
  ∀ path, Path.parent? path = none → ∀ text, storage.read path ≠ .ok text

/-! ## Paths without a parent -/

namespace Path

theorem segments_ne_nil (cs : List Char) : segments cs ≠ [] := by
  cases cs with
  | nil => simp [segments]
  | cons c cs =>
    unfold segments
    split
    · simp
    · split <;> simp

/-- A path that starts with an empty segment starts with a slash, or is empty. -/
theorem isAbsolute_of_segments {p : String} {rest : List (List Char)}
    (h : segments p.toList = [] :: rest) (hne : p ≠ "") : isAbsolute p = true := by
  rw [isAbsolute]
  cases hp : p.toList with
  | nil => exact absurd (String.toList_eq_nil_iff.mp hp) hne
  | cons c cs =>
    rw [hp, segments] at h
    by_cases hc : c = '/'
    · rw [hc]
      rfl
    · rw [if_neg hc] at h
      split at h <;> simp at h

theorem dropIdle_eq_nil_iff {ss : List (List Char)} :
    dropIdle ss = [] ↔ ∀ s ∈ ss, isIdle s = true := by
  rw [dropIdle, List.reverse_eq_nil_iff, List.dropWhile_eq_nil_iff]
  simp only [List.mem_reverse]

/-- Only the root and the empty path have no parent: no name comes after the first slash. -/
theorem idle_of_parent?_eq_none {p : String} (h : parent? p = none) :
    ∃ rest, segments p.toList = [] :: rest ∧ ∀ s ∈ rest, isIdle s = true := by
  rw [parent?] at h
  split at h
  · rename_i hnil
    exact absurd hnil (segments_ne_nil _)
  · rename_i first rest hsegments
    dsimp only at h
    split at h
    · rename_i hidle
      split at h
      · rename_i hfirst
        exact ⟨rest, hfirst ▸ hsegments, dropIdle_eq_nil_iff.mp hidle⟩
      · exact absurd h (by simp)
    · split at h <;> exact absurd h (by simp)

/-! ## Joined paths -/

theorem join_of_isAbsolute {p : String} (h : isAbsolute p = true) (base : String) :
    join base p = p := by
  rw [join, h, Bool.true_or, if_pos rfl]

/-- A path with something in it is not empty, wherever it is seen from. -/
theorem join_ne_empty {p : String} (h : p ≠ "") (base : String) : join base p ≠ "" := by
  have happend (front : String) : front ++ p ≠ "" := by
    intro hempty
    exact h (String.append_eq_empty_iff.mp hempty).2
  unfold join
  split
  · exact h
  · split
    · exact happend base
    · exact happend (base ++ "/")

end Path

/-! ## Trees -/

namespace Tree

/-- Idle segments lead from a directory back to it. -/
theorem follow_idle {ss : List (List Char)} (h : ∀ s ∈ ss, Path.isIdle s = true)
    (above : List Tree) (entries : List (String × Tree)) :
    follow above (.directory entries) ss = .ok (.directory entries) := by
  induction ss with
  | nil => rfl
  | cons s ss ih =>
    unfold follow
    dsimp only
    rw [if_pos (h s List.mem_cons_self)]
    exact ih fun u hu => h u (List.mem_cons_of_mem s hu)

/-- No file is found at a path without a parent. -/
theorem find_ne_file {path : String} (h : Path.parent? path = none) (root : Tree)
    (current : String) (bytes : List UInt8) : root.find current path ≠ .ok (.file bytes) := by
  obtain ⟨rest, hsegments, hidle⟩ := Path.idle_of_parent?_eq_none h
  intro hfind
  unfold find at hfind
  split at hfind
  · exact absurd hfind nofun
  · split at hfind
    · exact absurd hfind nofun
    · rename_i hne
      split at hfind
      · exact absurd hfind nofun
      · rw [Path.join_of_isAbsolute (Path.isAbsolute_of_segments hsegments hne), hsegments] at hfind
        cases root with
        | file content => exact absurd hfind nofun
        | directory entries =>
          have hall : ∀ s ∈ [] :: rest, Path.isIdle s = true := by
            intro s hs
            rcases List.mem_cons.mp hs with rfl | hs
            · rfl
            · exact hidle s hs
          rw [follow_idle hall] at hfind
          exact absurd hfind nofun

/-- A text is read just where there is a file with the bytes of the text. -/
theorem read_storage_eq_ok_iff {root : Tree} {current path text : String} :
    (root.storage current).read path = .ok text ↔
      root.find current path = .ok (.file (encodeText text)) := by
  rw [storage]
  dsimp only
  split
  · rename_i e hfind
    rw [hfind]
    exact iff_of_false nofun nofun
  · rename_i entries hfind
    rw [hfind]
    exact iff_of_false nofun nofun
  · rename_i bytes hfind
    rw [hfind, decodeText_eq_ok_iff]
    exact ⟨fun h => h ▸ rfl, fun h => Tree.file.inj (Except.ok.inj h)⟩

theorem rooted_storage (root : Tree) (current : String) : (root.storage current).Rooted :=
  fun _ h text hread => find_ne_file h root current (encodeText text)
    (read_storage_eq_ok_iff.mp hread)

end Tree

end AskSheet
