/-
  Answers: from the fields of a submission to the sequence that a script reads. A field whose key denotes
  a position puts its value there, the last field wins and gaps hold the empty answer (`collect`). A
  sequence is then padded to the number of prompts (`align`), and empty answers take the placeholder of
  their prompt (`fillDefaults`).
-/
import AskSheet.Sheet
import AskSheet.Text.Basic
import AskSheet.Text.Numeral

namespace AskSheet

open Text

/-- A submitted field. -/
structure Field where
  key : String
  value : String
  deriving DecidableEq, Repr, Inhabited

namespace Field

/-- Cuts `key=value` at the first `=`. -/
def parse? (arg : String) : Option Field :=
  match arg.toList.span (· ≠ '=') with
  | (key, '=' :: value) => some { key := String.ofList key, value := String.ofList value }
  | _ => none

end Field

namespace Answers

/-- The highest position that a key can denote. -/
def maxPosition : Nat := 10000

/-- The position that a key denotes: a decimal numeral from 1 to `maxPosition`, with blanks around it and
    a plus sign before it allowed. -/
def position? (key : String) : Option Nat :=
  let digits := match trimChars key.toList with
    | '+' :: ds => ds
    | ds => ds
  (numeral? 10 digits).filter fun n => 1 ≤ n && n ≤ maxPosition

/-- The sequence with empty answers after it up to the given length. -/
def pad (answers : List String) (length : Nat) : List String :=
  answers ++ List.replicate (length - answers.length) ""

/-- The sequence with this answer at the `n`-th place, counted from 1. -/
def put (answers : List String) (n : Nat) (answer : String) : List String :=
  (pad answers n).set (n - 1) answer

/-- The sequence after one more field. -/
def accept (answers : List String) (field : Field) : List String :=
  match position? field.key with
  | some n => put answers n field.value
  | none => answers

/-- The sequence that a submission holds. -/
def collect (fields : List Field) : List String :=
  fields.foldl accept []

/-- A sequence next to the number of prompts: how many empty answers it took to reach that number, or how
    many answers lie beyond it. -/
structure Alignment where
  answers : List String
  padded : Nat
  surplus : Nat
  deriving DecidableEq, Repr, Inhabited

/-- Pads a sequence to at least the expected length. -/
def align (answers : List String) (expected : Nat) : Alignment :=
  { answers := pad answers expected
    padded := expected - answers.length
    surplus := answers.length - expected }

/-- The answer, or the placeholder where the answer is empty. -/
def orPlaceholder (answer : String) (p : Prompt) : String :=
  if answer = "" then p.placeholder else answer

/-- Gives empty answers the placeholder of their prompt. -/
def fillDefaults : List String → List Prompt → List String
  | a :: as, p :: ps => orPlaceholder a p :: fillDefaults as ps
  | as, _ => as

theorem length_pad (answers : List String) (n : Nat) : (pad answers n).length = max answers.length n := by
  simp [pad]; omega

theorem length_put (answers : List String) (n : Nat) (a : String) :
    (put answers n a).length = max answers.length n := by
  simp [put, length_pad]

theorem length_fillDefaults (as : List String) (ps : List Prompt) :
    (fillDefaults as ps).length = as.length := by
  induction as generalizing ps with
  | nil => rfl
  | cons a as ih => cases ps <;> simp [fillDefaults, ih]

end Answers

end AskSheet
