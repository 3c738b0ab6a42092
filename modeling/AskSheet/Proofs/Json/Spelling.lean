/-
  The spellings of a JSON document. `Spells j cs` says that the characters `cs` are the document
  `j` without numbers, with any spacing between its tokens and none around it. A spelling is read
  back as the document that it spells (`parse?_of_spells`), whatever the spacing around it is.
-/
import AskSheet.Json.Reader
import AskSheet.Json.Writer
import AskSheet.Proofs.Json.Quoted

namespace AskSheet.Json

/-- Nothing but spacing. -/
def IsGap (cs : List Char) : Prop := ∀ c ∈ cs, isSpace c = true

instance (cs : List Char) : Decidable (IsGap cs) :=
  decidable_of_iff (cs.all isSpace = true) List.all_eq_true

/-- At least one item, with commas between them and spacing around each of them. -/
inductive Listed {α : Type} (P : α → List Char → Prop) : List α → List Char → Prop
  | last {a : α} {w cs v : List Char} : IsGap w → P a cs → IsGap v → Listed P [a] (w ++ (cs ++ v))
  | more {a : α} {as : List α} {w cs v ds : List Char} : IsGap w → P a cs → IsGap v →
      Listed P as ds → Listed P (a :: as) (w ++ (cs ++ (v ++ ',' :: ds)))

/-- A literal for the key, a colon and a value. -/
inductive Named (P : Json → List Char → Prop) : Option String × Json → List Char → Prop
  | mk {key : String} {value : Json} {w cs : List Char} : IsGap w → P value cs →
      Named P (some key, value) ((quote key).toList ++ ':' :: (w ++ cs))

/-- A document of texts, arrays and objects, and its spelling. -/
inductive Spells : Json → List Char → Prop
  | null : Spells .null "null".toList
  | bool (b : Bool) : Spells (.bool b) (if b then "true" else "false").toList
  | string (s : String) : Spells (.string (some s)) (quote s).toList
  | noItems {w : List Char} : IsGap w → Spells (.array []) ('[' :: (w ++ [']']))
  | items {js : List Json} {cs : List Char} : Listed Spells js cs →
      Spells (.array js) ('[' :: (cs ++ [']']))
  | noMembers {w : List Char} : IsGap w → Spells (.object []) ('{' :: (w ++ ['}']))
  | members {ms : List (Option String × Json)} {cs : List Char} : Listed (Named Spells) ms cs →
      Spells (.object ms) ('{' :: (cs ++ ['}']))

/-! ## Spacing is passed over -/

theorem skipSpace_gap {w : List Char} (hw : IsGap w) (cs : List Char) :
    skipSpace (w ++ cs) = skipSpace cs :=
  List.dropWhile_append_of_pos hw

theorem skipSpace_cons {c : Char} (hc : isSpace c = false) (cs : List Char) :
    skipSpace (c :: cs) = c :: cs := by
  rw [skipSpace, List.dropWhile_cons_of_neg (by rw [hc]; exact Bool.false_ne_true)]

theorem skipSpace_gap_cons {w : List Char} (hw : IsGap w) {c : Char} (hc : isSpace c = false)
    (cs : List Char) : skipSpace (w ++ c :: cs) = c :: cs := by
  rw [skipSpace_gap hw, skipSpace_cons hc]

theorem value?_gap {w : List Char} (hw : IsGap w) (fuel : Nat) (cs : List Char) :
    value? fuel (w ++ cs) = value? fuel cs := by
  cases fuel with
  | zero => rw [value?, value?]
  | succ fuel => rw [value?, value?, skipSpace_gap hw]

theorem items?_gap {w : List Char} (hw : IsGap w) (fuel : Nat) (cs : List Char) :
    items? fuel (w ++ cs) = items? fuel cs := by
  cases fuel with
  | zero => rw [items?, items?]
  | succ fuel => rw [items?, items?, value?_gap hw]

theorem members?_gap {w : List Char} (hw : IsGap w) (fuel : Nat) (cs : List Char) :
    members? fuel (w ++ cs) = members? fuel cs := by
  cases fuel with
  | zero => rw [members?, members?]
  | succ fuel => rw [members?, members?, skipSpace_gap hw]

/-! ## What a spelling starts with -/

theorem toList_quote (s : String) :
    (quote s).toList = '"' :: (s.toList.flatMap quoteChar ++ ['"']) := by
  rw [quote, String.toList_ofList, List.cons_append]

theorem Spells.exists_cons {j : Json} {cs : List Char} (h : Spells j cs) :
    ∃ c ds, cs = c :: ds ∧ isSpace c = false ∧ c ≠ ']' := by
  cases h with
  | null => exact ⟨'n', _, rfl, by decide⟩
  | bool b =>
    cases b with
    | true => exact ⟨'t', _, rfl, by decide⟩
    | false => exact ⟨'f', _, rfl, by decide⟩
  | string s => exact ⟨'"', _, toList_quote s, by decide⟩
  | noItems _ | items _ => exact ⟨'[', _, rfl, by decide⟩
  | noMembers _ | members _ => exact ⟨'{', _, rfl, by decide⟩

theorem Listed.exists_cons {js : List Json} {cs : List Char} (h : Listed Spells js cs) :
    ∃ w c ds, cs = w ++ c :: ds ∧ IsGap w ∧ isSpace c = false ∧ c ≠ ']' := by
  cases h with
  | last hw hj _ =>
    obtain ⟨c, ds, rfl, hc⟩ := hj.exists_cons
    exact ⟨_, c, _, rfl, hw, hc⟩
  | more hw hj _ _ =>
    obtain ⟨c, ds, rfl, hc⟩ := hj.exists_cons
    exact ⟨_, c, _, rfl, hw, hc⟩

theorem Listed.exists_quote {ms : List (Option String × Json)} {cs : List Char}
    (h : Listed (Named Spells) ms cs) : ∃ w ds, cs = w ++ '"' :: ds ∧ IsGap w := by
  cases h with
  | last hw hm _ =>
    cases hm with
    | mk _ _ => exact ⟨_, _, by rw [toList_quote, List.cons_append, List.cons_append], hw⟩
  | more hw hm _ _ =>
    cases hm with
    | mk _ _ => exact ⟨_, _, by rw [toList_quote, List.cons_append, List.cons_append], hw⟩

/-! ## Reading a spelling -/

/-- With this much fuel every spelling that is no longer is read as its document. -/
def ReadsUpTo (fuel : Nat) : Prop :=
  ∀ j cs rest, Spells j cs → cs.length ≤ fuel → value? fuel (cs ++ rest) = some (j, rest)

/-- Items are read up to their closing bracket when each of them is. -/
theorem items?_of_listed {js : List Json} {cs : List Char} (h : Listed Spells js cs) {fuel : Nat}
    (hfuel : cs.length < fuel) (ih : ∀ f < fuel, ReadsUpTo f) (rest : List Char) :
    items? fuel (cs ++ ']' :: rest) = some (js, rest) := by
  induction h generalizing fuel with
  | @last j w cs v hw hj hv =>
    obtain ⟨f, rfl⟩ : ∃ f, fuel = f + 1 := ⟨fuel - 1, by omega⟩
    simp only [List.length_append] at hfuel
    have hvalue := ih f (Nat.lt_succ_self f) j cs (v ++ ']' :: rest) hj (by omega)
    rw [List.append_assoc, List.append_assoc, items?, value?_gap hw, hvalue]
    dsimp only
    rw [skipSpace_gap_cons hv (by decide)]
    rfl
  | @more j js w cs v ds hw hj hv _ ihs =>
    obtain ⟨f, rfl⟩ : ∃ f, fuel = f + 1 := ⟨fuel - 1, by omega⟩
    simp only [List.length_append, List.length_cons] at hfuel
    have hvalue := ih f (Nat.lt_succ_self f) j cs (v ++ ',' :: (ds ++ ']' :: rest)) hj (by omega)
    have hitems := @ihs f (by omega) fun g hg => ih g (Nat.lt_succ_of_lt hg)
    simp only [List.append_assoc, List.cons_append]
    rw [items?, value?_gap hw, hvalue]
    dsimp only
    rw [skipSpace_gap_cons hv (by decide)]
    show (items? f (ds ++ ']' :: rest)).map _ = _
    rw [hitems, Option.map_some]

/-- A member is read before the brace or the comma that ends it. -/
theorem members?_named {w u cs tail : List Char} {key : String} {value : Json} {fuel : Nat}
    (hw : IsGap w) (hu : IsGap u) (h : value? fuel (cs ++ tail) = some (value, tail)) :
    (∀ rest, skipSpace tail = '}' :: rest →
      members? (fuel + 1) (w ++ ((quote key).toList ++ ':' :: (u ++ (cs ++ tail)))) =
        some ([(some key, value)], rest)) ∧
    (∀ rest, skipSpace tail = ',' :: rest →
      members? (fuel + 1) (w ++ ((quote key).toList ++ ':' :: (u ++ (cs ++ tail)))) =
        (members? fuel rest).map fun (members, rest) => ((some key, value) :: members, rest)) := by
  have hcolon : skipSpace (':' :: (u ++ (cs ++ tail))) = ':' :: (u ++ (cs ++ tail)) :=
    skipSpace_cons (by decide) _
  simp only [toList_quote, List.append_assoc, List.cons_append, List.nil_append]
  rw [members?, skipSpace_gap_cons hw (by decide)]
  constructor
  · intro rest htail
    simp only [literal?_quote, hcolon, value?_gap hu, h, htail]
  · intro rest htail
    simp only [literal?_quote, hcolon, value?_gap hu, h, htail]

/-- Members are read up to their closing brace when each of their values is. -/
theorem members?_of_listed {ms : List (Option String × Json)} {cs : List Char}
    (h : Listed (Named Spells) ms cs) {fuel : Nat} (hfuel : cs.length < fuel)
    (ih : ∀ f < fuel, ReadsUpTo f) (rest : List Char) :
    members? fuel (cs ++ '}' :: rest) = some (ms, rest) := by
  induction h generalizing fuel with
  | @last m w cs v hw hm hv =>
    obtain ⟨f, rfl⟩ : ∃ f, fuel = f + 1 := ⟨fuel - 1, by omega⟩
    cases hm with
    | @mk key value u cs hu hvalue =>
    simp only [List.length_append, List.length_cons] at hfuel
    have hread := ih f (Nat.lt_succ_self f) value cs (v ++ '}' :: rest) hvalue (by omega)
    simp only [List.append_assoc, List.cons_append]
    exact (members?_named hw hu hread).1 rest (skipSpace_gap_cons hv (by decide) rest)
  | @more m ms w cs v ds hw hm hv _ ihs =>
    obtain ⟨f, rfl⟩ : ∃ f, fuel = f + 1 := ⟨fuel - 1, by omega⟩
    cases hm with
    | @mk key value u cs hu hvalue =>
    simp only [List.length_append, List.length_cons] at hfuel
    have hread := ih f (Nat.lt_succ_self f) value cs (v ++ ',' :: (ds ++ '}' :: rest)) hvalue
      (by omega)
    have hmembers := @ihs f (by omega) fun g hg => ih g (Nat.lt_succ_of_lt hg)
    simp only [List.append_assoc, List.cons_append]
    rw [(members?_named hw hu hread).2 _ (skipSpace_gap_cons hv (by decide) _), hmembers,
      Option.map_some]

theorem value?_items {js : List Json} {cs : List Char} (h : Listed Spells js cs) {fuel : Nat}
    (hfuel : cs.length < fuel) (ih : ∀ f < fuel, ReadsUpTo f) (rest : List Char) :
    value? (fuel + 1) ('[' :: (cs ++ ']' :: rest)) = some (.array js, rest) := by
  have hitems := items?_of_listed h hfuel ih rest
  obtain ⟨w, c, ds, rfl, hw, hspace, hc⟩ := h.exists_cons
  rw [List.append_assoc, items?_gap hw, List.cons_append] at hitems
  rw [value?, skipSpace_cons (by decide), List.append_assoc, List.cons_append]
  simp only [skipSpace_gap_cons hw hspace]
  -- the first item decides against the empty array
  split
  · rename_i heq
    exact absurd (List.cons.inj heq).1 hc
  · rw [hitems, Option.map_some]

theorem value?_members {ms : List (Option String × Json)} {cs : List Char}
    (h : Listed (Named Spells) ms cs) {fuel : Nat} (hfuel : cs.length < fuel)
    (ih : ∀ f < fuel, ReadsUpTo f) (rest : List Char) :
    value? (fuel + 1) ('{' :: (cs ++ '}' :: rest)) = some (.object ms, rest) := by
  have hmembers := members?_of_listed h hfuel ih rest
  obtain ⟨w, ds, rfl, hw⟩ := h.exists_quote
  rw [List.append_assoc, members?_gap hw, List.cons_append] at hmembers
  rw [value?, skipSpace_cons (by decide), List.append_assoc, List.cons_append]
  simp only [skipSpace_gap_cons hw (show isSpace '"' = false by decide)]
  split
  · rename_i heq
    exact absurd (List.cons.inj heq).1 (by decide)
  · rw [hmembers, Option.map_some]

/-- A spelling is read as its document. -/
theorem readsUpTo (fuel : Nat) : ReadsUpTo fuel := by
  induction fuel using Nat.strongRecOn with
  | ind fuel ih =>
    intro j cs rest h hfuel
    obtain ⟨c, ds, hcs, -⟩ := h.exists_cons
    have hpos : 0 < cs.length := by rw [hcs]; exact Nat.succ_pos _
    obtain ⟨f, rfl⟩ : ∃ f, fuel = f + 1 := ⟨fuel - 1, by omega⟩
    cases h with
    | null => rfl
    | bool b => cases b <;> rfl
    | string s =>
      rw [toList_quote, List.cons_append, List.append_assoc, List.singleton_append, value?,
        skipSpace_cons (by decide)]
      show (literal? _).map _ = _
      rw [literal?_quote, Option.map_some]
    | @noItems w hw =>
      rw [List.cons_append, List.append_assoc, List.singleton_append, value?,
        skipSpace_cons (by decide)]
      simp only [skipSpace_gap_cons hw (show isSpace ']' = false by decide)]
    | @items js cs h =>
      simp only [List.length_cons, List.length_append, List.length_nil] at hfuel
      rw [List.cons_append, List.append_assoc, List.singleton_append]
      exact value?_items h (by omega) (fun g hg => ih g (Nat.lt_succ_of_lt hg)) rest
    | @noMembers w hw =>
      rw [List.cons_append, List.append_assoc, List.singleton_append, value?,
        skipSpace_cons (by decide)]
      simp only [skipSpace_gap_cons hw (show isSpace '\x7d' = false by decide)]
    | @members ms cs h =>
      simp only [List.length_cons, List.length_append, List.length_nil] at hfuel
      rw [List.cons_append, List.append_assoc, List.singleton_append]
      exact value?_members h (by omega) (fun g hg => ih g (Nat.lt_succ_of_lt hg)) rest

/-- A spelling with spacing around it is read back as the document that it spells. -/
theorem parse?_of_spells {j : Json} {cs w v : List Char} (hw : IsGap w) (h : Spells j cs)
    (hv : IsGap v) : parse? (String.ofList (w ++ (cs ++ v))) = some j := by
  have hlen : cs.length ≤ (w ++ (cs ++ v)).length + 1 := by
    simp only [List.length_append]
    omega
  have hend : skipSpace v = [] := by
    rw [← List.append_nil v, skipSpace_gap hv]
    rfl
  rw [parse?, String.toList_ofList]
  simp only [value?_gap hw, readsUpTo _ j cs v h hlen, hend, if_true]

end AskSheet.Json
