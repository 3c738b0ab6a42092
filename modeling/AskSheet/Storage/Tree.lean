/-
  Directory trees held in memory. A path is followed segment by segment: each segment but the last has to
  be a directory, two dots lead back up, and at the root they lead nowhere else.
-/
import AskSheet.Storage
import AskSheet.Storage.Path

namespace AskSheet

/-- A regular file with its bytes, or a directory with its named entries. -/
inductive Tree where
  | file (bytes : List UInt8)
  | directory (entries : List (String × Tree))
  deriving Inhabited

namespace Tree

/-- The entries of a directory; a file has none. -/
def entries : Tree → List (String × Tree)
  | .file _ => []
  | .directory es => es

/-- Puts a tree at the place that the names lead to, making the directories on the way. -/
def insert (t : Tree) (names : List String) (new : Tree) : Tree :=
  match names with
  | [] => new
  | n :: ns =>
    let old := (t.entries.lookup n).getD (.directory [])
    .directory ((n, insert old ns new) :: t.entries.filter (·.1 != n))

/-- Follows the segments from a tree; `above` are the directories around it, the nearest first. -/
def follow (above : List Tree) (t : Tree) : List (List Char) → Except ReadError Tree
  | [] => .ok t
  | s :: ss =>
    match t with
    | .file _ => .error .notADirectory
    | .directory es =>
      if Path.isIdle s then follow above t ss
      else if s = ['.', '.'] then
        match above with
        | [] => follow [] t ss
        | u :: us => follow us u ss
      else
        let name := String.ofList s
        if 255 < name.utf8ByteSize then .error .nameTooLong
        else
          match es.lookup name with
          | none => .error .notFound
          | some u => follow (t :: above) u ss

/-- The tree behind a path, as seen from the directory `current`. -/
def find (root : Tree) (current path : String) : Except ReadError Tree :=
  if path.toList.contains '\x00' then .error .nullInName
  else if path = "" then .error .notFound
  else if 4096 ≤ path.utf8ByteSize then .error .nameTooLong
  else follow [] root (Path.segments (Path.join current path).toList)

/-- The storage whose files are those of a tree. -/
def storage (root : Tree) (current : String) : Storage where
  read path :=
    match root.find current path with
    | .error e => .error e
    | .ok (.directory _) => .error .isADirectory
    | .ok (.file bytes) => decodeText bytes
  isFile path :=
    match root.find current path with
    | .ok (.file _) => true
    | _ => false

end Tree

end AskSheet
