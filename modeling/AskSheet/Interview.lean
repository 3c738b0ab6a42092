/-
  Interviews: the prompts of a sheet are shown one by one and each takes a line of the input. When the input
  is used up, one more prompt has been shown, and the answers that are left are empty. What comes after
  the line of the last prompt is not looked at.
-/
import AskSheet.Failure
import AskSheet.Sheet

namespace AskSheet

open Text

/-- What is shown when it is the turn of a prompt. -/
def Prompt.question (p : Prompt) : String :=
  if p.hasPlaceholder then p.label ++ " [" ++ p.placeholder ++ "] " else p.label ++ " "

namespace Interview

/-- The first line of the input with its line break, and the rest. -/
def splitLine : List UInt8 → List UInt8 × List UInt8
  | [] => ([], [])
  | b :: bs =>
    if b = 10 then ([b], bs)
    else
      let (line, rest) := splitLine bs
      (b :: line, rest)

/-- The text without the line breaks and carriage returns at its end. -/
def trimLineEnd (text : String) : String :=
  String.ofList (text.toList.reverse.dropWhile fun c => c == '\n' || c == '\r').reverse

/-- The course of an interview: what was shown, the answers, and whether the input was used up first. -/
structure Record where
  shown : String
  answers : Except Failure (List String)
  exhausted : Bool

/-- Asks the prompts. A line that is no text ends the interview. -/
def ask : List (Prompt × Nat) → List UInt8 → Record
  | [], _ => { shown := "", answers := .ok [], exhausted := false }
  | (p, number) :: ps, input =>
    match splitLine input with
    | ([], _) => { shown := p.question, answers := .ok ("" :: ps.map fun _ => ""), exhausted := true }
    | (line, rest) =>
      match decodeText line with
      | .error e => { shown := p.question, answers := .error (.unreadableAnswer number e), exhausted := false }
      | .ok text =>
        let next := ask ps rest
        { shown := p.question ++ next.shown
          answers := next.answers.map (trimLineEnd text :: ·)
          exhausted := next.exhausted }

end Interview

namespace Sheet

/-- What is shown before the first prompt. -/
def opening (s : Sheet) : String :=
  (if s.title = "" then "" else s.title ++ "\n") ++
    if s.description = "" then "" else s.description ++ "\n\n"

/-- The interview about a sheet. -/
def interview (s : Sheet) (input : List UInt8) : Interview.Record :=
  let record := Interview.ask s.numbered input
  { record with shown := s.opening ++ record.shown }

end Sheet

end AskSheet
