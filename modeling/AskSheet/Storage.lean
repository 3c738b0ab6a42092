/-
  Storage: what reading a path gives. A reading fails for a reason that has a text of its own
  (`ReadError.message`).
-/

namespace AskSheet

/-- Why the content of a file or stream is not to be had as text. -/
inductive ReadError where
  | notFound
  | notADirectory
  | isADirectory
  | nameTooLong
  | nullInName
  | permissionDenied
  | notUtf8
  | other (account : String)
  deriving DecidableEq, Repr

def ReadError.message : ReadError → String
  | notFound => "No such file or directory (os error 2)"
  | notADirectory => "Not a directory (os error 20)"
  | isADirectory => "Is a directory (os error 21)"
  | nameTooLong => "File name too long (os error 36)"
  | nullInName => "file name contained an unexpected NUL byte"
  | permissionDenied => "Permission denied (os error 13)"
  | notUtf8 => "stream did not contain valid UTF-8"
  | other account => account

/-- The files that a run can see: the text behind each path, and which paths name regular files. -/
structure Storage where
  read : String → Except ReadError String
  isFile : String → Bool

/-- The text that these bytes encode. -/
def decodeText (bytes : List UInt8) : Except ReadError String :=
  match String.fromUTF8? bytes.toByteArray with
  | some text => .ok text
  | none => .error .notUtf8

end AskSheet
