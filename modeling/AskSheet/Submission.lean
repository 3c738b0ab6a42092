/-
  Submissions: the fields of a form as they arrive, either one by one as `key=value`, where the first that
  is malformed counts, or as a JSON object, whose members are taken in the order of their keys, the last one
  of each key.
-/
import AskSheet.Answers
import AskSheet.Failure
import AskSheet.Json.Reader

namespace AskSheet.Submission

/-- The fields that are given one by one. -/
def ofArguments : List String → Except Failure (List Field)
  | [] => .ok []
  | arg :: args =>
    match Field.parse? arg with
    | none => .error (.malformedField arg)
    | some field => (ofArguments args).map (field :: ·)

/-- The members with one more of them, in the order of the keys; it replaces one with the same key. -/
def insertMember (key : String) (value : Json) : List (String × Json) → List (String × Json)
  | [] => [(key, value)]
  | (k, v) :: ms =>
    if key < k then (key, value) :: (k, v) :: ms
    else if key = k then (key, value) :: ms
    else (k, v) :: insertMember key value ms

/-- The members in the order of their keys, the last one of each key. -/
def sortMembers (members : List (Option String × Json)) : List (String × Json) :=
  members.foldl (fun ms (key, value) => insertMember (key.getD "") value ms) []

/-- The text of a value that is not nested. -/
def valueText? : Json → Option String
  | .null => some ""
  | .bool b => some (if b then "true" else "false")
  | .number n => n.map Json.Number.text
  | .string s => s
  | .array _ | .object _ => none

/-- The fields of members, the first nested value of which is an error. -/
def ofMembers : List (String × Json) → Except Failure (List Field)
  | [] => .ok []
  | (key, value) :: ms =>
    match valueText? value with
    | none => .error (.nestedValue key)
    | some text => (ofMembers ms).map ({ key, value := text } :: ·)

/-- The deepest nesting of a submission. -/
def maxDepth : Nat := 127

/-- The fields of a JSON object. -/
def ofJson (text : String) : Except Failure (List Field) :=
  match Json.parse? text with
  | some (.object members) =>
    let j := Json.object members
    if j.isDefinite && j.depth ≤ maxDepth then ofMembers (sortMembers members)
    else .error (.malformedSubmission "a string, a number or the nesting of the object is out of range")
  | some _ => .error (.malformedSubmission "not an object")
  | none => .error (.malformedSubmission "not a JSON document")

end AskSheet.Submission
