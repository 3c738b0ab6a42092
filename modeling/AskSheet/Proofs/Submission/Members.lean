/-
  The members of a submitted JSON object. Sorting leaves the last member of each key in the order of
  the keys (`sortMembers_spec`), so it depends on nothing but the members of each key in their order
  (`sortMembers_congr`). Members whose values are plain give the fields with their texts
  (`exists_fields_of_plain`); otherwise the nested value with the least key is refused
  (`exists_nested_of_survives`).
-/
import AskSheet.Proofs.Json.Numeral
import AskSheet.Submission
import Mathlib.Data.List.Induction
import Mathlib.Data.List.Sort
import Mathlib.Data.String.Basic

namespace AskSheet.Submission

/-- The keys increase. -/
def Sorted (ms : List (String × Json)) : Prop := ms.Pairwise fun m n => m.1 < n.1

/-- The members of a key, in the order in which they are written. -/
def membersOf (key : String) (members : List (Option String × Json)) :
    List (Option String × Json) :=
  members.filter fun m => m.1 = some key

/-- Of the members of a key the last one has this value. -/
def Survives (members : List (Option String × Json)) (key : String) (value : Json) : Prop :=
  (membersOf key members).getLast? = some (some key, value)

/-- A value that is no array and no object, and its text. A number is read from a numeral. -/
inductive Plain : Json → String → Prop
  | null : Plain .null ""
  | bool (b : Bool) : Plain (.bool b) (if b then "true" else "false")
  | string (s : String) : Plain (.string (some s)) s
  | integer {m : Json.Numeral} : m.IsInteger → Plain (.number m.number?) m.integerText

/-- An array or an object. -/
def IsNested : Json → Prop
  | .array _ | .object _ => True
  | _ => False

/-! ## Sorting -/

theorem mem_insertMember {key : String} {value : Json} {ms : List (String × Json)} (h : Sorted ms)
    {m : String × Json} :
    m ∈ insertMember key value ms ↔ m = (key, value) ∨ m.1 ≠ key ∧ m ∈ ms := by
  induction ms with
  | nil => simp [insertMember]
  | cons n ms ih =>
    obtain ⟨k, v⟩ := n
    obtain ⟨hfirst, hrest⟩ := List.pairwise_cons.mp h
    rw [insertMember]
    split
    · rename_i hlt
      have hne : ∀ n ∈ (k, v) :: ms, n.1 ≠ key := by
        refine List.forall_mem_cons.mpr ⟨hlt.ne', fun n hn => (hlt.trans (hfirst n hn)).ne'⟩
      rw [List.mem_cons]
      exact or_congr_right ⟨fun hm => ⟨hne m hm, hm⟩, And.right⟩
    · split
      · rename_i heq
        subst heq
        have hne : m ∈ ms → m.1 ≠ key := fun hm => (hfirst m hm).ne'
        have hsame : m = (key, v) → m.1 = key := fun hm => congrArg Prod.fst hm
        rw [List.mem_cons, List.mem_cons]
        grind
      · rename_i hnlt hne
        have hother : m = (k, v) → m.1 ≠ key := by
          rintro rfl
          exact Ne.symm hne
        rw [List.mem_cons, List.mem_cons, ih hrest]
        grind

theorem sorted_insertMember (key : String) (value : Json) {ms : List (String × Json)}
    (h : Sorted ms) : Sorted (insertMember key value ms) := by
  induction ms with
  | nil => exact List.pairwise_singleton _ _
  | cons n ms ih =>
    obtain ⟨k, v⟩ := n
    obtain ⟨hfirst, hrest⟩ := List.pairwise_cons.mp h
    rw [insertMember]
    split
    · rename_i hlt
      refine List.pairwise_cons.mpr ⟨List.forall_mem_cons.mpr ⟨hlt, fun n hn => ?_⟩, h⟩
      exact hlt.trans (hfirst n hn)
    · split
      · rename_i heq
        subst heq
        exact List.pairwise_cons.mpr ⟨hfirst, hrest⟩
      · rename_i hnlt hne
        have hgt : k < key := lt_of_le_of_ne (not_lt.mp hnlt) (Ne.symm hne)
        refine List.pairwise_cons.mpr ⟨fun n hn => ?_, ih hrest⟩
        rcases (mem_insertMember hrest).mp hn with rfl | ⟨-, hn⟩
        · exact hgt
        · exact hfirst n hn

theorem sortMembers_append (members : List (Option String × Json)) (key : String) (value : Json) :
    sortMembers (members ++ [(some key, value)]) = insertMember key value (sortMembers members) := by
  rw [sortMembers, List.foldl_append]
  rfl

theorem survives_append_iff {members : List (Option String × Json)} {k key : String}
    {v value : Json} : Survives (members ++ [(some k, v)]) key value ↔
      (key, value) = (k, v) ∨ key ≠ k ∧ Survives members key value := by
  rw [Survives, membersOf, List.filter_append]
  by_cases hk : k = key
  · subst hk
    rw [List.filter_cons_of_pos (by simp), List.filter_nil, List.getLast?_concat]
    simp [eq_comm]
  · rw [List.filter_cons_of_neg (by simpa using hk), List.filter_nil, List.append_nil]
    have hne : key ≠ k := Ne.symm hk
    simp only [Prod.mk.injEq, hne, false_and, false_or, ne_eq, not_false_eq_true, true_and]
    rfl

/-- Sorting gives increasing keys and leaves the last member of each key. -/
theorem sortMembers_spec {members : List (Option String × Json)} (h : ∀ m ∈ members, m.1.isSome) :
    Sorted (sortMembers members) ∧
      ∀ key value, (key, value) ∈ sortMembers members ↔ Survives members key value := by
  induction members using List.reverseRecOn with
  | nil => exact ⟨List.Pairwise.nil, fun key value => by simp [sortMembers, Survives, membersOf]⟩
  | append_singleton members m ih =>
    obtain ⟨hmembers, hm⟩ := List.forall_mem_append.mp h
    obtain ⟨hsorted, hmem⟩ := ih hmembers
    obtain ⟨key?, v⟩ := m
    obtain ⟨k, rfl⟩ := Option.isSome_iff_exists.mp (hm _ List.mem_cons_self)
    rw [sortMembers_append]
    refine ⟨sorted_insertMember k v hsorted, fun key value => ?_⟩
    rw [mem_insertMember hsorted, survives_append_iff, hmem]

/-- Lists with increasing keys are determined by what is in them. -/
theorem ext_of_increasing {α : Type} {key : α → String} {as bs : List α}
    (has : as.Pairwise fun a b => key a < key b) (hbs : bs.Pairwise fun a b => key a < key b)
    (h : ∀ a, a ∈ as ↔ a ∈ bs) : as = bs := by
  have hne {a b : α} (hlt : key a < key b) : a ≠ b := by
    rintro rfl
    exact lt_irrefl (key a) hlt
  have hperm : as.Perm bs := (List.perm_ext_iff_of_nodup (has.imp hne) (hbs.imp hne)).mpr h
  refine hperm.eq_of_pairwise (fun a b _ _ hab hba => ?_) has hbs
  exact absurd hba hab.asymm

/-- Sorting depends on nothing but the members of each key in their order. -/
theorem sortMembers_congr {members members' : List (Option String × Json)}
    (h : ∀ m ∈ members, m.1.isSome) (h' : ∀ m ∈ members', m.1.isSome)
    (hsame : ∀ key, membersOf key members' = membersOf key members) :
    sortMembers members' = sortMembers members := by
  obtain ⟨hsorted, hmem⟩ := sortMembers_spec h
  obtain ⟨hsorted', hmem'⟩ := sortMembers_spec h'
  refine ext_of_increasing hsorted' hsorted fun ⟨key, value⟩ => ?_
  rw [hmem, hmem', Survives, Survives, hsame]

/-! ## Texts of values -/

theorem valueText?_of_plain {value : Json} {text : String} (h : Plain value text) :
    valueText? value = some text := by
  cases h with
  | null | bool _ | string _ => rfl
  | @integer m hm =>
    obtain ⟨n, hn⟩ : ∃ n, m.number? = some n := ⟨_, m.number?_of_isInteger hm⟩
    rw [valueText?, hn, Option.map_some, m.text_of_isInteger hm hn]

/-- The field of a member. -/
def fieldOf (m : String × Json) : Field := { key := m.1, value := (valueText? m.2).getD "" }

theorem ofMembers_eq_map {ms : List (String × Json)} (h : ∀ m ∈ ms, (valueText? m.2).isSome) :
    ofMembers ms = .ok (ms.map fieldOf) := by
  induction ms with
  | nil => rfl
  | cons m ms ih =>
    obtain ⟨hm, hms⟩ := List.forall_mem_cons.mp h
    obtain ⟨text, htext⟩ := Option.isSome_iff_exists.mp hm
    rw [ofMembers, htext, List.map_cons, fieldOf, htext]
    dsimp only
    rw [ih hms]
    rfl

/-- The first member with a nested value is refused. -/
theorem ofMembers_append {before after : List (String × Json)} {key : String} {value : Json}
    (hbefore : ∀ m ∈ before, (valueText? m.2).isSome) (h : valueText? value = none) :
    ofMembers (before ++ (key, value) :: after) = .error (.nestedValue key) := by
  induction before with
  | nil => rw [List.nil_append, ofMembers, h]
  | cons m before ih =>
    obtain ⟨hm, hrest⟩ := List.forall_mem_cons.mp hbefore
    obtain ⟨text, htext⟩ := Option.isSome_iff_exists.mp hm
    rw [List.cons_append, ofMembers, htext]
    dsimp only
    rw [ih hrest]
    rfl

/-! ## Objects that are accepted -/

/-- The text is a JSON object with these members, whose strings are texts, whose numbers are in range
    and which is not nested too deep. -/
structure Accepts (text : String) (members : List (Option String × Json)) : Prop where
  parsed : Json.parse? text = some (.object members)
  definite : (Json.object members).isDefinite = true
  shallow : (Json.object members).depth ≤ maxDepth

theorem membersAreDefinite_iff (members : List (Option String × Json)) :
    Json.membersAreDefinite members = true ↔
      ∀ m ∈ members, m.1.isSome = true ∧ m.2.isDefinite = true := by
  induction members with
  | nil => simp [Json.membersAreDefinite]
  | cons m ms ih =>
    rw [Json.membersAreDefinite, Bool.and_eq_true, Bool.and_eq_true, ih, List.forall_mem_cons]

/-- A definite value has a text unless it is nested. -/
theorem valueText?_eq_none_iff {value : Json} (h : value.isDefinite = true) :
    valueText? value = none ↔ IsNested value := by
  cases value with
  | null | bool _ => exact iff_of_false nofun id
  | number n =>
    obtain ⟨n, rfl⟩ := Option.isSome_iff_exists.mp h
    exact iff_of_false nofun id
  | string s =>
    obtain ⟨s, rfl⟩ := Option.isSome_iff_exists.mp h
    exact iff_of_false nofun id
  | array _ | object _ => exact iff_of_true rfl trivial

section

variable {text : String} {members : List (Option String × Json)} (h : Accepts text members)
include h

theorem Accepts.keys : ∀ m ∈ members, m.1.isSome := fun m hm =>
  ((membersAreDefinite_iff members).mp h.definite m hm).1

theorem Accepts.ofJson : ofJson text = ofMembers (sortMembers members) := by
  rw [Submission.ofJson, h.parsed]
  exact if_pos (by simp [h.definite, h.shallow])

theorem Survives.isDefinite {key : String} {value : Json} (hs : Survives members key value) :
    value.isDefinite = true := by
  have hmem : (some key, value) ∈ members := (List.mem_filter.mp (List.mem_of_getLast? hs)).1
  exact ((membersAreDefinite_iff members).mp h.definite _ hmem).2

/-- If all members that count have plain values, the fields are theirs, in the order of the keys. -/
theorem exists_fields_of_plain (hplain : ∀ key value, Survives members key value → ∃ t, Plain value t) :
    ∃ fields : List Field, ofJson text = .ok fields ∧
      fields.Pairwise (fun f g => f.key < g.key) ∧
      ∀ f, f ∈ fields ↔ ∃ value, Survives members f.key value ∧ Plain value f.value := by
  obtain ⟨hsorted, hmem⟩ := sortMembers_spec h.keys
  have htexts : ∀ m ∈ sortMembers members, (valueText? m.2).isSome := by
    rintro ⟨key, value⟩ hm
    obtain ⟨t, ht⟩ := hplain key value ((hmem key value).mp hm)
    rw [valueText?_of_plain ht, Option.isSome_some]
  refine ⟨(sortMembers members).map fieldOf, ?_, ?_, fun f => ?_⟩
  · rw [h.ofJson, ofMembers_eq_map htexts]
  · exact List.pairwise_map.mpr hsorted
  · rw [List.mem_map]
    constructor
    · rintro ⟨⟨key, value⟩, hm, rfl⟩
      obtain ⟨t, ht⟩ := hplain key value ((hmem key value).mp hm)
      refine ⟨value, (hmem key value).mp hm, ?_⟩
      rw [fieldOf, valueText?_of_plain ht]
      exact ht
    · rintro ⟨value, hs, ht⟩
      refine ⟨(f.key, value), (hmem f.key value).mpr hs, ?_⟩
      rw [fieldOf, valueText?_of_plain ht]
      rfl

/-- If some member that counts has a nested value, the one of them with the least key is refused. -/
theorem exists_nested_of_survives (hnested : ∃ key value, Survives members key value ∧ IsNested value) :
    ∃ key value, (Survives members key value ∧ IsNested value) ∧
      (∀ k v, Survives members k v → IsNested v → key ≤ k) ∧
      ofJson text = .error (.nestedValue key) := by
  obtain ⟨hsorted, hmem⟩ := sortMembers_spec h.keys
  have hnone {key : String} {value : Json} (hs : Survives members key value) :
      valueText? value = none ↔ IsNested value := valueText?_eq_none_iff (hs.isDefinite h)
  obtain ⟨k, v, hs, hn⟩ := hnested
  have hfind : ((sortMembers members).find? fun m => (valueText? m.2).isNone).isSome :=
    List.find?_isSome.mpr ⟨(k, v), (hmem k v).mpr hs, by simp [(hnone hs).mpr hn]⟩
  obtain ⟨⟨key, value⟩, hfirst⟩ := Option.isSome_iff_exists.mp hfind
  obtain ⟨hvalue, before, after, hsplit, hbefore⟩ := List.find?_eq_some_iff_append.mp hfirst
  have htext : valueText? value = none := Option.isNone_iff_eq_none.mp hvalue
  have hbefore' : ∀ m ∈ before, (valueText? m.2).isSome := fun m hm => by
    simpa using hbefore m hm
  have hkey : Survives members key value := by
    rw [← hmem, hsplit]
    exact List.mem_append_right before List.mem_cons_self
  refine ⟨key, value, ⟨hkey, (hnone hkey).mp htext⟩, fun k v hs hn => ?_, ?_⟩
  · -- nothing before the first nested value is nested
    have hin : (k, v) ∈ before ++ (key, value) :: after := hsplit ▸ (hmem k v).mpr hs
    rw [hsplit, Sorted, List.pairwise_append] at hsorted
    rcases List.mem_append.mp hin with hin | hin
    · have hsome := hbefore' _ hin
      rw [(hnone hs).mpr hn] at hsome
      exact absurd hsome Bool.false_ne_true
    · rcases List.mem_cons.mp hin with heq | hin
      · exact le_of_eq (congrArg Prod.fst heq).symm
      · exact le_of_lt ((List.pairwise_cons.mp hsorted.2.1).1 _ hin)
  · rw [h.ofJson, hsplit, ofMembers_append hbefore' htext]

end

end AskSheet.Submission
