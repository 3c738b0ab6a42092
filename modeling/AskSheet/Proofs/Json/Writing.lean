/-
  Writing JSON. Both printed forms of a document without numbers, whose strings are texts, spell it
  (`spells_compact`, `spells_prettyAt`), so it is read back from either (`parse?_compact`,
  `parse?_pretty`).
-/
import AskSheet.Proofs.Json.Spelling

namespace AskSheet.Json

mutual

/-- No number, and every string is a text. -/
def isTextual : Json → Bool
  | null | bool _ => true
  | number _ => false
  | string s => s.isSome
  | array items => areTextual items
  | object members => membersAreTextual members

def areTextual : List Json → Bool
  | [] => true
  | j :: js => isTextual j && areTextual js

def membersAreTextual : List (Option String × Json) → Bool
  | [] => true
  | (key, value) :: ms => key.isSome && isTextual value && membersAreTextual ms

end

theorem areTextual_iff (js : List Json) : areTextual js = true ↔ ∀ j ∈ js, j.isTextual = true := by
  induction js with
  | nil => simp [areTextual]
  | cons j js ih => rw [areTextual, Bool.and_eq_true, ih, List.forall_mem_cons]

theorem membersAreTextual_iff (ms : List (Option String × Json)) :
    membersAreTextual ms = true ↔ ∀ m ∈ ms, m.1.isSome = true ∧ m.2.isTextual = true := by
  induction ms with
  | nil => simp [membersAreTextual]
  | cons m ms ih =>
    rw [membersAreTextual, Bool.and_eq_true, Bool.and_eq_true, ih, List.forall_mem_cons]

/-- What holds of words and texts, of arrays when it holds of their items, and of objects when it
    holds of their values, holds of every textual document. -/
theorem induction_of_isTextual {motive : Json → Prop} (null : motive .null)
    (bool : ∀ b, motive (.bool b)) (string : ∀ s, motive (.string (some s)))
    (array : ∀ js : List Json, (∀ j ∈ js, motive j) → motive (.array js))
    (object : ∀ ms : List (Option String × Json),
      (∀ m ∈ ms, m.1.isSome = true ∧ motive m.2) → motive (.object ms))
    (j : Json) (h : j.isTextual = true) : motive j := by
  match j with
  | .null => exact null
  | .bool b => exact bool b
  | .number _ => exact absurd h Bool.false_ne_true
  | .string (some s) => exact string s
  | .array js =>
    rw [isTextual, areTextual_iff] at h
    refine array js fun j hj => ?_
    have hlt := List.sizeOf_lt_of_mem hj
    exact induction_of_isTextual null bool string array object j (h j hj)
  | .object ms =>
    rw [isTextual, membersAreTextual_iff] at h
    refine object ms fun m hm => ⟨(h m hm).1, ?_⟩
    have hlt := List.sizeOf_lt_of_mem hm
    exact induction_of_isTextual null bool string array object m.2 (h m hm).2
termination_by sizeOf j
decreasing_by
  · simp only [Json.array.sizeOf_spec]
    omega
  · obtain ⟨key, value⟩ := m
    simp only [Prod.mk.sizeOf_spec] at hlt
    simp only [Json.object.sizeOf_spec]
    omega

/-! ## The printed items and members -/

theorem compactItems_eq_map (js : List Json) : compactItems js = js.map compact := by
  induction js with
  | nil => rw [compactItems, List.map_nil]
  | cons j js ih => rw [compactItems, ih, List.map_cons]

theorem compactMembers_eq_map (ms : List (Option String × Json)) :
    compactMembers ms = ms.map fun m => stringText m.1 ++ ":" ++ compact m.2 := by
  induction ms with
  | nil => rw [compactMembers, List.map_nil]
  | cons m ms ih => rw [compactMembers, ih, List.map_cons]

theorem prettyItems_eq_map (level : Nat) (js : List Json) :
    prettyItems level js = js.map (prettyAt level) := by
  induction js with
  | nil => rw [prettyItems, List.map_nil]
  | cons j js ih => rw [prettyItems, ih, List.map_cons]

theorem prettyMembers_eq_map (level : Nat) (ms : List (Option String × Json)) :
    prettyMembers level ms = ms.map fun m => stringText m.1 ++ ": " ++ prettyAt level m.2 := by
  induction ms with
  | nil => rw [prettyMembers, List.map_nil]
  | cons m ms ih => rw [prettyMembers, ih, List.map_cons]

/-! ## Texts between marks -/

theorem isGap_nil : IsGap [] := by
  intro c hc
  exact absurd hc List.not_mem_nil

theorem isGap_empty : IsGap "".toList := isGap_nil

theorem isGap_space : IsGap " ".toList := by decide

theorem isGap_newLine (level : Nat) : IsGap (newLine level).toList := by
  intro c hc
  rw [newLine, String.toList_ofList, List.mem_cons, List.mem_replicate] at hc
  rcases hc with rfl | ⟨-, rfl⟩ <;> rfl

/-- The text of the items with a comma between them, the same spacing before each of them and
    spacing after the last. -/
def spaced {α : Type} (before after : String) (f : α → String) (as : List α) : String :=
  String.intercalate "," (as.map fun a => before ++ f a) ++ after

theorem toList_spaced_cons_cons {α : Type} (before after : String) (f : α → String) (a b : α)
    (as : List α) : (spaced before after f (a :: b :: as)).toList =
      before.toList ++ ((f a).toList ++ ',' :: (spaced before after f (b :: as)).toList) := by
  unfold spaced
  rw [List.map_cons, List.map_cons, String.intercalate_cons_cons]
  simp [List.append_assoc]

theorem listed_spaced {α : Type} {P : α → List Char → Prop} {before after : String}
    (hbefore : IsGap before.toList) (hafter : IsGap after.toList) (f : α → String) (a : α)
    (as : List α) (h : ∀ b ∈ a :: as, P b (f b).toList) :
    Listed P (a :: as) (spaced before after f (a :: as)).toList := by
  induction as generalizing a with
  | nil =>
    rw [spaced, List.map_singleton, String.intercalate_singleton, String.toList_append,
      String.toList_append, List.append_assoc]
    exact .last hbefore (h a List.mem_cons_self) hafter
  | cons b bs ih =>
    have hrest := ih b fun c hc => h c (List.mem_cons_of_mem a hc)
    rw [toList_spaced_cons_cons]
    exact .more hbefore (h a List.mem_cons_self) isGap_nil hrest

theorem enclose_map {α : Type} (opening closing : String) (f : α → String) (as : List α) :
    enclose opening closing (as.map f) = opening ++ spaced "" "" f as ++ closing := by
  simp [enclose, spaced]

theorem encloseLines_map {α : Type} (opening closing : String) (level : Nat) (f : α → String)
    (as : List α) : ∃ before after, IsGap before.toList ∧ IsGap after.toList ∧
      encloseLines opening closing level (as.map f) =
        opening ++ spaced before after f as ++ closing := by
  unfold encloseLines
  cases as with
  | nil => exact ⟨"", "", isGap_nil, isGap_nil, by simp [spaced]⟩
  | cons a as =>
    refine ⟨newLine (level + 1), newLine level, isGap_newLine _, isGap_newLine _, ?_⟩
    rw [if_neg (by simp), List.map_map, spaced]
    simp [Function.comp_def, String.append_assoc]

section

variable {before after : String} (hbefore : IsGap before.toList) (hafter : IsGap after.toList)

include hbefore hafter

theorem spells_items (f : Json → String) (js : List Json)
    (h : ∀ j ∈ js, Spells j (f j).toList) :
    Spells (.array js) ("[" ++ spaced before after f js ++ "]").toList := by
  rw [String.toList_append, String.toList_append]
  cases js with
  | nil =>
    have hempty : spaced before after f [] = after := by simp [spaced]
    rw [hempty]
    exact .noItems hafter
  | cons j js => exact .items (listed_spaced hbefore hafter f j js h)

theorem spells_members {gap : String} (hgap : IsGap gap.toList) (f : Json → String)
    (ms : List (Option String × Json)) (hkeys : ∀ m ∈ ms, m.1.isSome = true)
    (h : ∀ m ∈ ms, Spells m.2 (f m.2).toList) :
    Spells (.object ms) ("\x7b" ++
      spaced before after (fun m => stringText m.1 ++ (":" ++ gap) ++ f m.2) ms ++ "\x7d").toList := by
  rw [String.toList_append, String.toList_append]
  cases ms with
  | nil =>
    have hempty (g : Option String × Json → String) : spaced before after g [] = after := by
      simp [spaced]
    rw [hempty]
    exact .noMembers hafter
  | cons m ms =>
    refine .members (listed_spaced hbefore hafter _ m ms fun n hn => ?_)
    obtain ⟨key, value⟩ := n
    obtain ⟨key, rfl⟩ := Option.isSome_iff_exists.mp (hkeys _ hn)
    have hnamed := @Named.mk Spells key value gap.toList (f value).toList hgap (h _ hn)
    simpa [stringText] using hnamed

end

/-! ## Both printed forms are spellings -/

theorem spells_compact (j : Json) (h : j.isTextual = true) : Spells j (compact j).toList := by
  refine induction_of_isTextual (motive := fun j => Spells j (compact j).toList)
    .null .bool .string ?array ?object j h
  case array =>
    intro js ih
    rw [compact, compactItems_eq_map, enclose_map]
    exact spells_items isGap_empty isGap_empty compact js ih
  case object =>
    intro ms ih
    rw [compact, compactMembers_eq_map, enclose_map]
    exact spells_members isGap_empty isGap_empty isGap_empty compact ms (fun m hm => (ih m hm).1)
      fun m hm => (ih m hm).2

theorem spells_prettyAt (j : Json) (h : j.isTextual = true) (level : Nat) :
    Spells j (prettyAt level j).toList := by
  refine induction_of_isTextual (motive := fun j => ∀ level, Spells j (prettyAt level j).toList)
    (fun _ => .null) (fun b _ => .bool b) (fun s _ => .string s) ?array ?object j h level
  case array =>
    intro js ih level
    obtain ⟨before, after, hbefore, hafter, htext⟩ :=
      encloseLines_map "[" "]" level (prettyAt (level + 1)) js
    rw [prettyAt, prettyItems_eq_map, htext]
    exact spells_items hbefore hafter _ js fun j hj => ih j hj (level + 1)
  case object =>
    intro ms ih level
    obtain ⟨before, after, hbefore, hafter, htext⟩ := encloseLines_map "\x7b" "\x7d" level
      (fun m => stringText m.1 ++ ": " ++ prettyAt (level + 1) m.2) ms
    rw [prettyAt, prettyMembers_eq_map, htext]
    exact spells_members hbefore hafter isGap_space _ ms (fun m hm => (ih m hm).1)
      fun m hm => (ih m hm).2 (level + 1)

/-! ## Reading what was written -/

theorem parse?_compact {j : Json} (h : j.isTextual = true) : parse? j.compact = some j := by
  have hparse := parse?_of_spells isGap_empty (spells_compact j h) isGap_empty
  simpa using hparse

/-- Spacing after the document does not matter. -/
theorem parse?_pretty {j : Json} (h : j.isTextual = true) {after : String}
    (hafter : IsGap after.toList) : parse? (j.pretty ++ after) = some j := by
  have hparse := parse?_of_spells isGap_empty (spells_prettyAt j h 0) hafter
  simpa [pretty, ← String.toList_append] using hparse

end AskSheet.Json
