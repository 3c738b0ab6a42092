/-
  Calls of `input` with one quoted literal. `Call.at?` reads the call that a text starts with, and
  `Call.literals` collects the literals of the calls of a source from left to right: it takes the first
  call that starts on a word boundary and goes on after its closing parenthesis.
-/
import AskSheet.Text.Basic
import AskSheet.Text.Word

namespace AskSheet.Script.Call

open Text

/-- Removes the given start of a text. -/
def afterStart? : List Char → List Char → Option (List Char)
  | [], cs => some cs
  | _ :: _, [] => none
  | s :: ss, c :: cs => if s = c then afterStart? ss cs else none

/-- Cuts the text at the first `q`, which has to come before the end of the line. -/
def quoted? (q : Char) : List Char → Option (List Char × List Char)
  | [] => none
  | c :: cs =>
    if c = q then some ([], cs)
    else if c = '\n' then none
    else (quoted? q cs).map fun (lit, rest) => (c :: lit, rest)

/-- A literal between double quotes or between single quotes, and what follows it. -/
def literal? : List Char → Option (List Char × List Char)
  | '"' :: cs => quoted? '"' cs
  | '\'' :: cs => quoted? '\'' cs
  | _ => none

/-- The literal of the call that the text starts with, and what follows the call. -/
def at? (cs : List Char) : Option (List Char × List Char) := do
  let args ← afterStart? "input(".toList cs
  let (lit, rest) ← literal? (args.dropWhile isBlank)
  let rest ← afterStart? [')'] (rest.dropWhile isBlank)
  return (lit, rest)

theorem eq_of_afterStart? {s cs rest : List Char} (h : afterStart? s cs = some rest) : cs = s ++ rest := by
  induction s generalizing cs with
  | nil => simpa [afterStart?] using h
  | cons a s ih =>
    cases cs with
    | nil => simp [afterStart?] at h
    | cons c cs =>
      simp only [afterStart?] at h
      split at h
      · rename_i hc
        simp [hc, ih h]
      · simp at h

theorem eq_of_quoted? {q : Char} {cs lit rest : List Char} (h : quoted? q cs = some (lit, rest)) :
    cs = lit ++ q :: rest := by
  induction cs generalizing lit with
  | nil => simp [quoted?] at h
  | cons c cs ih =>
    rw [quoted?] at h
    split at h
    · rename_i hc
      simp only [Option.some.injEq, Prod.mk.injEq] at h
      obtain ⟨rfl, rfl⟩ := h
      simp [hc]
    · split at h
      · simp at h
      · simp only [Option.map_eq_some_iff, Prod.mk.injEq, Prod.exists] at h
        obtain ⟨l, r, hq, rfl, rfl⟩ := h
        simp [ih hq]

theorem length_of_literal? {cs lit rest : List Char} (h : literal? cs = some (lit, rest)) :
    rest.length < cs.length := by
  unfold literal? at h
  split at h
  · have := eq_of_quoted? h; simp [this]; omega
  · have := eq_of_quoted? h; simp [this]; omega
  · simp at h

theorem length_dropWhile_le (p : Char → Bool) (cs : List Char) : (cs.dropWhile p).length ≤ cs.length :=
  (List.dropWhile_sublist p).length_le

/-- A call is never empty. -/
theorem length_of_at? {cs lit rest : List Char} (h : at? cs = some (lit, rest)) :
    rest.length < cs.length := by
  unfold at? at h
  simp only [Option.bind_eq_bind, Option.bind_eq_some_iff, Prod.exists, Option.pure_def, Option.some.injEq,
    Prod.mk.injEq] at h
  obtain ⟨args, ha, l, r, hl, r', hr, rfl, rfl⟩ := h
  have h1 := congrArg List.length (eq_of_afterStart? ha)
  have h2 := length_of_literal? hl
  have h3 := congrArg List.length (eq_of_afterStart? hr)
  have h4 := length_dropWhile_le isBlank args
  have h5 := length_dropWhile_le isBlank r
  simp only [List.length_append, List.length_cons, List.length_nil] at h1 h3
  omega

/-- The literals of the calls in a source; `inWord` says whether the character before it is a word
    character, so that a call at its start would not be on a word boundary. -/
def literals (inWord : Bool) : List Char → List (List Char)
  | [] => []
  | c :: cs =>
    if inWord then literals (isWordChar c) cs
    else
      match h : at? (c :: cs) with
      | some (lit, rest) =>
        have : rest.length ≤ cs.length := Nat.le_of_lt_succ (length_of_at? h)
        lit :: literals false rest
      | none => literals (isWordChar c) cs
termination_by cs => cs.length

end AskSheet.Script.Call
