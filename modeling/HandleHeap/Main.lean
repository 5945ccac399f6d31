import HandleHeap.CommandLine.Run

/-!
# The program

Reads the configuration file that the arguments name, runs the command line, and prints what it
leaves.
-/

open HandleHeap CommandLine

/-- The error of a number of the system, which may come with its sign turned. -/
def numberedError (number : UInt32) (words : String) : FileError :=
  .ofNumber (min number.toNat (-number).toNat) words

/-- Why the system could not read a file. -/
def fileError : IO.Error → FileError
  | .noFileOrDirectory _ number words => numberedError number words
  | .inappropriateType _ number words => numberedError number words
  | .invalidArgument _ number words => numberedError number words
  | .permissionDenied _ number words => numberedError number words
  | e => .other (toString e)

/-- The text of the file that a path names. -/
def fileText (path : String) : BaseIO (Except FileError String) := do
  match ← (IO.FS.readBinFile path).toBaseIO with
  | .ok bytes => return textOfBytes bytes
  | .error e => return .error (fileError e)

/-- Runs the program on its arguments. -/
def main (arguments : List String) : IO UInt32 := do
  let text ← match configPath? arguments with
    | none => pure (.error .notFound)
    | some path => fileText path
  let exit := run ⟨fun _ => text, Host.addressable, Host.inTurn⟩ arguments
  (← IO.getStdout).putStr exit.stdout
  (← IO.getStderr).putStr exit.stderr
  return UInt32.ofNat exit.code
