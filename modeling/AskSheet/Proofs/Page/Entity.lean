/-
  Reading escaped text. One pass from left to right puts the character for each of the five entities
  and keeps everything else (`unescape`). It undoes escaping (`unescape_flatMap_entity`), also where
  the text holds something that looks like an entity, so different texts are escaped differently
  (`escape_inj`).
-/
import AskSheet.Page.Form

namespace AskSheet.Page

/-- The text that stands behind escaped text. -/
def unescape : List Char → List Char
  | [] => []
  | '&' :: 'a' :: 'm' :: 'p' :: ';' :: cs => '&' :: unescape cs
  | '&' :: 'l' :: 't' :: ';' :: cs => '<' :: unescape cs
  | '&' :: 'g' :: 't' :: ';' :: cs => '>' :: unescape cs
  | '&' :: 'q' :: 'u' :: 'o' :: 't' :: ';' :: cs => '"' :: unescape cs
  | '&' :: '#' :: '3' :: '9' :: ';' :: cs => '\'' :: unescape cs
  | c :: cs => c :: unescape cs

/-- Only an ampersand starts an entity. -/
theorem unescape_cons {c : Char} (h : c ≠ '&') (cs : List Char) :
    unescape (c :: cs) = c :: unescape cs := by
  rw [unescape] <;> intros <;> contradiction

/-- An entity is read as its character, whatever follows it. -/
theorem unescape_entity_append (c : Char) (cs : List Char) :
    unescape (entity c ++ cs) = c :: unescape cs := by
  unfold entity
  split
  · rfl
  · rfl
  · rfl
  · rfl
  · rfl
  · rename_i hamp _ _ _ _
    exact unescape_cons hamp cs

theorem unescape_flatMap_entity (cs : List Char) : unescape (cs.flatMap entity) = cs := by
  induction cs with
  | nil => rfl
  | cons c cs ih => rw [List.flatMap_cons, unescape_entity_append, ih]

theorem unescape_escape (s : String) : unescape (escape s).toList = s.toList := by
  rw [escape, String.toList_ofList, unescape_flatMap_entity]

theorem escape_inj {s t : String} (h : escape s = escape t) : s = t := by
  rw [← String.toList_inj, ← unescape_escape s, ← unescape_escape t, h]

end AskSheet.Page
