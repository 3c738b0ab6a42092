/-
  Numerals. The decimal digits of a number denote it (`numeral?_toDigits`), and so do its digits in
  any base up to sixteen with zeros in front of them (`numeral?_padded`), also in capitals
  (`numeral?_map_toUpper`). A decimal numeral is digits and denotes their exact value
  (`numeral?_ten_eq_some_iff`); digits without a zero in front of others are those of the number that
  they denote (`toDigits_ofDigitChars`).
-/
import AskSheet.Text.Basic
import AskSheet.Text.Numeral

namespace AskSheet.Text

theorem isDigit_bounds {c : Char} (h : c.isDigit = true) : 48 ≤ c.toNat ∧ c.toNat ≤ 57 := by
  simp only [Char.isDigit, Bool.and_eq_true, decide_eq_true_eq, ge_iff_le,
    UInt32.le_iff_toNat_le] at h
  exact h

theorem digit?_of_isDigit {c : Char} (h : c.isDigit = true) :
    digit? 10 c = some (c.toNat - '0'.toNat) := by
  have hb := isDigit_bounds h
  have hlow : '0' ≤ c := by rw [Char.le_def, UInt32.le_iff_toNat_le]; exact hb.1
  have hhigh : c ≤ '9' := by rw [Char.le_def, UInt32.le_iff_toNat_le]; exact hb.2
  have hlt : c.toNat - '0'.toNat < 10 := by
    show c.toNat - 48 < 10
    omega
  rw [digit?, digitValue?, if_pos (by simp [hlow, hhigh]), Option.filter_some,
    if_pos (by simpa using hlt)]

theorem isBlank_of_isDigit {c : Char} (h : c.isDigit = true) : isBlank c = false := by
  have hb := isDigit_bounds h
  have hval : c.val.toNat = c.toNat := rfl
  simp only [isBlank, Bool.or_eq_false_iff, Bool.and_eq_false_iff, decide_eq_false_iff_not,
    beq_eq_false_iff_ne, UInt32.le_iff_toNat_le, ne_eq, ← UInt32.toNat_inj, UInt32.reduceToNat]
  omega

theorem ofDigits_eq_ofDigitChars {cs : List Char} (h : ∀ c ∈ cs, c.isDigit = true) (acc : Nat) :
    ofDigits 10 acc cs = Nat.ofDigitChars 10 cs acc := by
  induction cs generalizing acc with
  | nil => rw [ofDigits, Nat.ofDigitChars_nil]
  | cons c cs ih =>
    rw [ofDigits, digit?_of_isDigit (h c List.mem_cons_self), Option.getD_some,
      Nat.ofDigitChars_cons, ih fun d hd => h d (List.mem_cons_of_mem c hd), Nat.mul_comm]

theorem isDigit_of_mem_decimal {n : Nat} {c : Char} (h : c ∈ Nat.toDigits 10 n) :
    c.isDigit = true :=
  Nat.isDigit_of_mem_toDigits (by decide) (by decide) h

/-- A number in decimal is digits and nothing else. -/
theorem not_mem_decimal {c : Char} (h : c.isDigit = false) (n : Nat) : c ∉ (decimal n).toList := by
  rw [decimal, String.toList_ofList]
  intro hmem
  rw [isDigit_of_mem_decimal hmem] at h
  exact absurd h (by decide)

/-- The decimal digits of a number denote it. -/
theorem numeral?_toDigits (n : Nat) : numeral? 10 (Nat.toDigits 10 n) = some n := by
  have hdigits : ∀ c ∈ Nat.toDigits 10 n, c.isDigit = true := fun c hc => isDigit_of_mem_decimal hc
  have hall : (Nat.toDigits 10 n).all (isDigit 10) = true := by
    rw [List.all_eq_true]
    intro c hc
    rw [isDigit, digit?_of_isDigit (hdigits c hc), Option.isSome_some]
  rw [numeral?, if_pos (by simp [hall, Nat.toDigits_ne_nil]), ofDigits_eq_ofDigitChars hdigits,
    Nat.ofDigitChars_ten_toDigits]

/-! ## Any base up to sixteen -/

section

variable {base : Nat}

theorem digit?_digitChar {d : Nat} (h : d < base) (hbase : base ≤ 16) :
    digit? base d.digitChar = some d := by
  have hvalue : ∀ e < 16, digitValue? e.digitChar = some e := by decide
  rw [digit?, hvalue d (by omega), Option.filter_some, if_pos (decide_eq_true h)]

theorem ofDigits_append (acc : Nat) (cs ds : List Char) :
    ofDigits base acc (cs ++ ds) = ofDigits base (ofDigits base acc cs) ds := by
  induction cs generalizing acc with
  | nil => rfl
  | cons c cs ih => exact ih _

/-- The digits of a number in a base denote it. -/
theorem ofDigits_toDigits (hlow : 1 < base) (hbase : base ≤ 16) (n : Nat) :
    ofDigits base 0 (Nat.toDigits base n) = n ∧
      ∀ c ∈ Nat.toDigits base n, isDigit base c = true := by
  induction n using Nat.strongRecOn with
  | ind n ih =>
    rcases Nat.lt_or_ge n base with h | h
    · rw [Nat.toDigits_of_lt_base h, List.forall_mem_singleton, ofDigits, ofDigits, isDigit,
        digit?_digitChar h hbase]
      exact ⟨by simp, rfl⟩
    · have hdigit := digit?_digitChar (Nat.mod_lt n (Nat.lt_of_succ_lt hlow)) hbase
      obtain ⟨hvalue, hall⟩ := ih (n / base) (Nat.div_lt_self (by omega) hlow)
      rw [Nat.toDigits_of_base_le hlow h, ofDigits_append, hvalue, ofDigits, ofDigits, hdigit]
      refine ⟨Nat.div_add_mod' n base, ?_⟩
      rw [List.forall_mem_append, List.forall_mem_singleton, isDigit, hdigit]
      exact ⟨hall, rfl⟩

theorem length_padded {width n : Nat} (hlow : 1 < base) (hwidth : 0 < width)
    (h : n < base.pow width) : (padded base width n).length = width := by
  have hlen := (Nat.length_toDigits_le_iff hlow hwidth).mpr h
  rw [padded, List.length_append, List.length_replicate]
  omega

theorem digit?_zero (hlow : 1 < base) (hbase : base ≤ 16) : digit? base '0' = some 0 := by
  show digit? base (Nat.digitChar 0) = some 0
  exact digit?_digitChar (Nat.lt_of_succ_lt hlow) hbase

theorem isDigit_of_mem_padded (hlow : 1 < base) (hbase : base ≤ 16) {width n : Nat} {c : Char}
    (h : c ∈ padded base width n) : isDigit base c = true := by
  rw [padded, List.mem_append] at h
  rcases h with h | h
  · rw [List.eq_of_mem_replicate h, isDigit, digit?_zero hlow hbase]
    rfl
  · exact (ofDigits_toDigits hlow hbase n).2 c h

/-- Zeros in front do not count. -/
theorem numeral?_padded (hlow : 1 < base) (hbase : base ≤ 16) (width n : Nat) :
    numeral? base (padded base width n) = some n := by
  have hzeros (k : Nat) : ofDigits base 0 (List.replicate k '0') = 0 := by
    induction k with
    | zero => rfl
    | succ k ih =>
      rw [List.replicate_succ, ofDigits, digit?_zero hlow hbase, Option.getD_some, Nat.zero_mul, ih]
  have hdigits : (padded base width n).all (isDigit base) = true :=
    List.all_eq_true.mpr fun c hc => isDigit_of_mem_padded hlow hbase hc
  have hne : padded base width n ≠ [] := by
    rw [padded]
    simp [Nat.toDigits_ne_nil]
  rw [numeral?, if_pos (by simp [hne, hdigits]), padded, ofDigits_append, hzeros,
    (ofDigits_toDigits hlow hbase n).1]

/-- Of the characters up to the letters, one has what all of them have. -/
theorem forall_small {p : Char → Prop} (h : ∀ n < 123, p (Char.ofNat n)) {c : Char}
    (hc : c.toNat < 123) : p c := by
  have hp := h c.toNat hc
  rwa [Char.ofNat_toNat] at hp

theorem toNat_lt_of_isDigit {c : Char} (h : isDigit base c = true) : c.toNat < 123 := by
  refine Decidable.byContradiction fun hlarge => ?_
  have hnot {d : Char} (hd : d.toNat < 123) : (decide (c ≤ d)) = false := by
    rw [decide_eq_false_iff_not, Char.le_def, UInt32.le_iff_toNat_le]
    show ¬ c.toNat ≤ d.toNat
    omega
  have hvalue : digitValue? c = none := by
    simp [digitValue?, hnot (d := '9') (by decide), hnot (d := 'z') (by decide),
      hnot (d := 'Z') (by decide)]
  rw [isDigit, digit?, hvalue] at h
  exact Bool.noConfusion h

end

/-! ## Decimal digits -/

theorem isDigit_ten (c : Char) : isDigit 10 c = c.isDigit := by
  rcases Nat.lt_or_ge c.toNat 123 with h | h
  · exact forall_small (p := fun c => isDigit 10 c = c.isDigit) (by decide) h
  · have hlarge : isDigit 10 c = false :=
      eq_false_of_ne_true fun hd => Nat.not_lt.mpr h (toNat_lt_of_isDigit hd)
    have hplain : c.isDigit = false := by
      refine eq_false_of_ne_true fun hd => ?_
      have := isDigit_bounds hd
      omega
    rw [hlarge, hplain]

/-- A decimal numeral is at least one digit and nothing else, and denotes its exact value. -/
theorem numeral?_ten_eq_some_iff {cs : List Char} {n : Nat} : numeral? 10 cs = some n ↔
    cs ≠ [] ∧ (∀ c ∈ cs, c.isDigit = true) ∧ Nat.ofDigitChars 10 cs 0 = n := by
  have hcond : (cs != [] && cs.all (isDigit 10)) = true ↔
      cs ≠ [] ∧ ∀ c ∈ cs, c.isDigit = true := by
    rw [Bool.and_eq_true, bne_iff_ne, List.all_eq_true]
    simp only [isDigit_ten]
  rw [numeral?]
  split
  · rename_i h
    obtain ⟨hne, hdigits⟩ := hcond.mp h
    rw [ofDigits_eq_ofDigitChars hdigits, Option.some.injEq]
    exact ⟨fun hn => ⟨hne, hdigits, hn⟩, fun ⟨_, _, hn⟩ => hn⟩
  · rename_i h
    exact iff_of_false nofun fun ⟨hne, hdigits, _⟩ => h (hcond.mpr ⟨hne, hdigits⟩)

theorem digitChar_sub_of_isDigit {c : Char} (h : c.isDigit = true) :
    (c.toNat - '0'.toNat).digitChar = c := by
  have hsmall : ∀ n < 58, 48 ≤ n → (n - 48).digitChar = Char.ofNat n := by decide
  have hb := isDigit_bounds h
  have hchar := hsmall c.toNat (by omega) hb.1
  rwa [Char.ofNat_toNat] at hchar

/-- Digits behind a number are the digits that the longer number ends with. -/
theorem toDigits_ofDigitChars_append {cs : List Char} (h : ∀ c ∈ cs, c.isDigit = true) {acc : Nat}
    (hacc : 0 < acc) :
    Nat.toDigits 10 (Nat.ofDigitChars 10 cs acc) = Nat.toDigits 10 acc ++ cs := by
  induction cs generalizing acc with
  | nil => rw [Nat.ofDigitChars_nil, List.append_nil]
  | cons c cs ih =>
    obtain ⟨hc, hcs⟩ := List.forall_mem_cons.mp h
    have hd : c.toNat - '0'.toNat < 10 := by
      have := isDigit_bounds hc
      show c.toNat - 48 < 10
      omega
    have hstep := Nat.toDigits_append_toDigits (by decide : 1 < 10) hacc hd
    rw [Nat.toDigits_of_lt_base hd, digitChar_sub_of_isDigit hc] at hstep
    rw [Nat.ofDigitChars_cons, ih hcs (by omega), ← hstep, List.append_assoc, List.singleton_append]

/-- Digits without a zero in front of others are the digits of the number that they denote. -/
theorem toDigits_ofDigitChars {cs : List Char} (hne : cs ≠ []) (h : ∀ c ∈ cs, c.isDigit = true)
    (hzero : cs.head? = some '0' → cs = ['0']) :
    Nat.toDigits 10 (Nat.ofDigitChars 10 cs 0) = cs := by
  obtain ⟨c, cs, rfl⟩ := List.exists_cons_of_ne_nil hne
  obtain ⟨hc, hcs⟩ := List.forall_mem_cons.mp h
  have hb := isDigit_bounds hc
  by_cases hz : c = '0'
  · rw [hzero (congrArg some hz)]
    rfl
  · have hpos : 0 < c.toNat - '0'.toNat := by
      have hval : c.toNat ≠ '0'.toNat := fun he => hz (Char.toNat_inj.mp he)
      show 0 < c.toNat - 48
      have : c.toNat ≠ 48 := hval
      omega
    have hd : c.toNat - '0'.toNat < 10 := by
      show c.toNat - 48 < 10
      omega
    rw [Nat.ofDigitChars_cons, Nat.mul_zero, Nat.zero_add, toDigits_ofDigitChars_append hcs hpos,
      Nat.toDigits_of_lt_base hd, digitChar_sub_of_isDigit hc, List.singleton_append]

/-! ## Capitals -/

theorem digitValue?_toUpper (c : Char) : digitValue? c.toUpper = digitValue? c := by
  rcases Nat.lt_or_ge c.toNat 123 with h | h
  · exact forall_small (p := fun c => digitValue? c.toUpper = digitValue? c) (by decide) h
  · have hnot : ¬('a'.val ≤ c.val ∧ c.val ≤ 'z'.val) := by
      rintro ⟨-, hle⟩
      have hle' : c.toNat ≤ 122 := hle
      omega
    have hsame : c.toUpper = c := dif_neg hnot
    rw [hsame]

/-- A numeral in capitals denotes the same number. -/
theorem numeral?_map_toUpper (base : Nat) (cs : List Char) :
    numeral? base (cs.map Char.toUpper) = numeral? base cs := by
  have hdigit (c : Char) : digit? base c.toUpper = digit? base c := by
    rw [digit?, digit?, digitValue?_toUpper]
  have hvalue (acc : Nat) : ofDigits base acc (cs.map Char.toUpper) = ofDigits base acc cs := by
    induction cs generalizing acc with
    | nil => rfl
    | cons c cs ih => rw [List.map_cons, ofDigits, ofDigits, hdigit, ih]
  have hall : (cs.map Char.toUpper).all (isDigit base) = cs.all (isDigit base) := by
    rw [List.all_map]
    exact congrArg cs.all (funext fun c => congrArg Option.isSome (hdigit c))
  have hne : (cs.map Char.toUpper != []) = (cs != []) := by cases cs <;> rfl
  rw [numeral?, numeral?, hall, hvalue, hne]

end AskSheet.Text
