/-
  The program: reads the command line, the files that the run needs and the input, and writes what the run
  leaves behind. The prompts of an interview are shown as soon as the input so far leads to them.
-/
import AskSheet.CommandLine
import AskSheet.Run

namespace AskSheet.Program

/-- The reason behind an error of the system. -/
def readError : IO.Error → ReadError
  | .noFileOrDirectory .. => .notFound
  | .inappropriateType _ 20 _ => .notADirectory
  | .inappropriateType _ 21 _ => .isADirectory
  | .permissionDenied .. => .permissionDenied
  | e => .other (toString e)

abbrev Contents := List (String × Except ReadError String)

def fetch (paths : List String) : IO Contents :=
  paths.mapM fun (path : String) => do
    try
      return (path, decodeText (← IO.FS.readBinFile path).toList)
    catch e =>
      return (path, .error (readError e))

/-- The storage that holds what was fetched. -/
def storage (found : Contents) : Storage where
  read path := (found.lookup path).getD (.error .notFound)
  isFile path :=
    match found.lookup path with
    | some (.ok _) | some (.error .notUtf8) | some (.error .permissionDenied) => true
    | _ => false

partial def readLine (stdin : IO.FS.Stream) (line : List UInt8) : IO (List UInt8) := do
  match (← stdin.read 1).toList with
  | [b] => if b = 10 then return (b :: line).reverse else readLine stdin (b :: line)
  | _ => return line.reverse

partial def readAll (stdin : IO.FS.Stream) (bytes : ByteArray) : IO ByteArray := do
  let more ← stdin.read 65536
  if more.isEmpty then return bytes else readAll stdin (bytes ++ more)

/-- Runs a request, and again with one more line of input as long as it has a prompt without an answer. -/
partial def converse (r : Request) (w : World) (shown : Nat) : IO Outcome := do
  let outcome := r.run w
  let stderr ← IO.getStderr
  stderr.putStr (outcome.prompts.drop shown).toString
  stderr.flush
  let line ← if outcome.exhausted then readLine (← IO.getStdin) [] else pure []
  if line = [] then return outcome
  else converse r { w with input := w.input ++ line } outcome.prompts.length

def serve (r : Request) : IO UInt32 := do
  let directory := (← IO.currentDir).toString
  let found ← fetch [r.configPath directory]
  let config := (Config.discover (storage found) r.config directory).toOption
  let more ← fetch ((config.map r.command.paths).getD [])
  let input ← match config, r.command with
    | some _, .collect .json _ _ => readAll (← IO.getStdin) .empty
    | _, _ => pure .empty
  let outcome ← converse r { storage := storage (found ++ more), directory, input := input.toList } 0
  IO.print outcome.output
  match outcome.failure? with
  | some failure =>
    IO.eprintln ("Error: " ++ failure.message)
    return failure.exitCode.toUInt32
  | none => return 0

def refuse (e : CommandLine.UsageError) : IO UInt32 := do
  match e with
  | .helpShown => IO.print CommandLine.usage
  | .versionShown command => IO.print (CommandLine.UsageError.versionText command)
  | _ => IO.eprint ("error: " ++ e.message ++ "\n\n" ++ CommandLine.usage)
  return e.exitCode.toUInt32

end AskSheet.Program

def main (args : List String) : IO UInt32 :=
  match AskSheet.CommandLine.read args with
  | .ok request => AskSheet.Program.serve request
  | .error e => AskSheet.Program.refuse e
