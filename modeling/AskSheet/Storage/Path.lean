/-
  Paths: names with slashes between them. An empty segment or a dot after the first segment stands for
  nothing; what is left of a path without its last name is its parent.
-/

namespace AskSheet.Path

/-- The texts between the slashes, of which there is at least one. -/
def segments : List Char → List (List Char)
  | [] => [[]]
  | c :: cs =>
    if c = '/' then [] :: segments cs
    else
      match segments cs with
      | [] => [[c]]
      | s :: ss => (c :: s) :: ss

/-- The path with these segments. -/
def ofSegments (ss : List (List Char)) : String := String.ofList (List.intercalate ['/'] ss)

/-- Starts at the root. -/
def isAbsolute (p : String) : Bool := p.toList.head? == some '/'

/-- The path as seen from the directory `base`. An absolute path is the same from everywhere. -/
def join (base p : String) : String :=
  if isAbsolute p || base == "" then p
  else if base.toList.getLast? = some '/' then base ++ p
  else base ++ "/" ++ p

/-- Stands for nothing unless it comes first. -/
def isIdle (segment : List Char) : Bool := segment == [] || segment == ['.']

/-- Without the segments at the end that stand for nothing. -/
def dropIdle (ss : List (List Char)) : List (List Char) :=
  (ss.reverse.dropWhile isIdle).reverse

/-- The directory that holds the last name of a path; the root and the empty path have none. -/
def parent? (p : String) : Option String :=
  match segments p.toList with
  | [] => none
  | first :: rest =>
    let names := dropIdle rest
    if names = [] then if first = [] then none else some ""
    else
      match dropIdle names.dropLast with
      | [] => some (if first = [] then "/" else String.ofList first)
      | ss => some (ofSegments (first :: ss))

end AskSheet.Path
