/-
  JSON documents as trees. A string literal that is no text and a numeral that is out of range keep their
  place in the tree as `none`, so that they do no harm where nobody looks at them.
-/
import AskSheet.Json.Number
import AskSheet.Json.Quoted

namespace AskSheet

/-- A JSON document. Members stay in the order in which they are written. -/
inductive Json where
  | null
  | bool (b : Bool)
  | number (n : Option Json.Number)
  | string (s : Option String)
  | array (items : List Json)
  | object (members : List (Option String × Json))
  deriving Repr, Inhabited

namespace Json

mutual

/-- Every string is a text and every number in range. -/
def isDefinite : Json → Bool
  | null | bool _ => true
  | number n => n.isSome
  | string s => s.isSome
  | array items => areDefinite items
  | object members => membersAreDefinite members

def areDefinite : List Json → Bool
  | [] => true
  | j :: js => isDefinite j && areDefinite js

def membersAreDefinite : List (Option String × Json) → Bool
  | [] => true
  | (key, value) :: ms => key.isSome && isDefinite value && membersAreDefinite ms

end

mutual

/-- How deep arrays and objects are nested. -/
def depth : Json → Nat
  | null | bool _ | number _ | string _ => 0
  | array items => depthOf items + 1
  | object members => depthOfMembers members + 1

def depthOf : List Json → Nat
  | [] => 0
  | j :: js => max (depth j) (depthOf js)

def depthOfMembers : List (Option String × Json) → Nat
  | [] => 0
  | (_, value) :: ms => max (depth value) (depthOfMembers ms)

end

end Json

end AskSheet
