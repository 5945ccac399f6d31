/-!
# Files

The program reads one file, which a path names. `FileError` says why a file cannot be read, and
`textOfBytes` gives the text of one that was.
-/

namespace HandleHeap.CommandLine

/-- Why the text of a file cannot be read. -/
inductive FileError
  | notFound
  | denied
  /-- A file stands where a directory is needed. -/
  | notDirectory
  /-- A directory stands where a file is needed. -/
  | isDirectory
  | nameTooLong
  /-- The bytes of the file are not UTF-8. -/
  | notText
  /-- Any other reason, in words. -/
  | other (reason : String)
  deriving DecidableEq, Repr

namespace FileError

/-- How an error with a number is told. -/
def numbered (words : String) (number : Nat) : String :=
  words ++ " (os error " ++ toString number ++ ")"

/-- The text of an error. -/
def message : FileError → String
  | notFound => numbered "No such file or directory" 2
  | denied => numbered "Permission denied" 13
  | notDirectory => numbered "Not a directory" 20
  | isDirectory => numbered "Is a directory" 21
  | nameTooLong => numbered "File name too long" 36
  | notText => "stream did not contain valid UTF-8"
  | other reason => reason

/-- The error of a number, told in words where the number is not one of those above. -/
def ofNumber (number : Nat) (words : String) : FileError :=
  if number = 2 then notFound
  else if number = 13 then denied
  else if number = 20 then notDirectory
  else if number = 21 then isDirectory
  else if number = 36 then nameTooLong
  else other (numbered words number)

end FileError

/-- The text that the bytes of a file are. -/
def textOfBytes (bytes : ByteArray) : Except FileError String :=
  match String.fromUTF8? bytes with
  | some text => .ok text
  | none => .error .notText

end HandleHeap.CommandLine
