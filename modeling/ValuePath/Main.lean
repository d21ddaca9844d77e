import ValuePath.Program.Run

/-!
The program itself: it reads its surroundings, runs, and prints.
-/
namespace ValuePath.Terminal

/-- Reads a stream to its end. -/
partial def readAll (stream : IO.FS.Stream) (taken : ByteArray) : IO ByteArray := do
  let chunk ← stream.read 65536
  if chunk.isEmpty then return taken else readAll stream (taken ++ chunk)

/-- The bytes of a file, if it can be read. -/
def readFile (name : String) : IO (Option (List UInt8)) := do
  try return some (← IO.FS.readBinFile name).data.toList
  catch _ => return none

/-- The input, unless it is a terminal or the document is in a file. -/
def readInput (needed : Bool) : IO (Option (List UInt8)) := do
  let stream ← IO.getStdin
  if !needed || (← stream.isTty) then return none
  else return some (← readAll stream ByteArray.empty).data.toList

end ValuePath.Terminal

open ValuePath Terminal

/-- Runs the program on the words of the command line. -/
def main (words : List String) : IO UInt32 := do
  let command := Command.ofWords words
  let file := match command with
    | .lookup options => options.file
    | _ => none
  let config ← match ← IO.getEnv "HOME" with
    | some home => readFile (home ++ "/" ++ Config.file)
    | none => pure none
  let content ← match file with
    | some name => readFile name
    | none => pure none
  let reads := match command with
    | .lookup _ => file.isNone
    | _ => false
  let outcome := Program.execute {
    config := .file config
    files := fun name => if some name = file then content else none
    input := ← readInput reads } command
  let stderr ← IO.getStderr
  for entry in outcome.log do
    stderr.putStrLn ((if entry.isWarning then "WARN " else "DEBUG ") ++ entry.message)
  match outcome.error with
  | some error => stderr.putStrLn ("Error: " ++ String.intercalate "\nCaused by: " error.messages)
  | none => pure ()
  (← IO.getStdout).putStr outcome.output
  return outcome.exitCode.toUInt32
