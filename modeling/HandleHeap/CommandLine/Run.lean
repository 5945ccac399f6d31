import HandleHeap.CommandLine.Arguments
import HandleHeap.CommandLine.Chain
import HandleHeap.CommandLine.FileError
import HandleHeap.CommandLine.Sample
import HandleHeap.CommandLine.Stress
import HandleHeap.Config.Reader

/-!
# Running the command line

`run` is the whole program but for what it asks of the system, its `Host`: what it prints, and its
exit code. A command that is refused prints one line on the error channel and ends with 1; a fault
or a panic ends with 101, and arguments that do not fit with 2.
-/

namespace HandleHeap.CommandLine

/-- The system that the program runs on. -/
structure Host where
  /-- The text of the file that a path names, or why it cannot be read. -/
  fileText : String → Except FileError String
  /-- Whether the allocator has a number of bytes in one piece. -/
  grants : Nat → Bool
  /-- What becomes of a number of threads, each of which is to reserve a number of blocks. -/
  crew : (threads allocs : Nat) → Stress.Crew

namespace Host

/-- An allocator that has whatever fits between addresses of 47 bits. -/
def addressable (bytes : Nat) : Bool := bytes < 0x800000000000

/-- Threads that run one after the other. A thread that was started takes 24 bytes of the list of
them, and what it is given 32 bytes of its own each time. -/
def inTurn (threads allocs : Nat) : Stress.Crew :=
  if roomLimit < 24 * threads then .unstarted
  else if roomLimit < 32 * allocs then .started [] threads
  else .started (Stress.inTurn threads allocs) 0

end Host

/-- What a run of the program leaves behind. -/
structure Exit where
  code : Nat
  stdout : String
  stderr : String
  deriving DecidableEq, Repr

namespace Exit

/-- The end of a command that has a summary. -/
def summarized (summary : Summary) : Exit := ⟨0, summary.render, ""⟩

/-- The end of a command that is refused. -/
def refused (message : String) : Exit := ⟨1, "", "error: " ++ message ++ "\n"⟩

/-- The end of a program that panics. -/
def panicked (message : String) : Exit := ⟨101, "", message ++ "\n"⟩

/-- The end of a command that stopped. -/
def stopped : Stop → Exit
  | .refused error => refused error.message
  | .fault .productOverflow => panicked "attempt to multiply with overflow"
  | .fault _ => panicked "internal fault"

/-- The end of a command that has a summary or was stopped. -/
def ofAnswer : Except Stop Summary → Exit
  | .ok summary => summarized summary
  | .error stop => stopped stop

end Exit

/-- The text of a configuration that cannot be read. -/
def readErrorMessage : Config.ReadError → String
  | .unfinished => "the configuration ends too early"
  | .malformed => "the configuration is not JSON"
  | .mismatch => "the configuration does not fit"

/-- The path of the configuration that the arguments name, if they name one. -/
def configPath? (arguments : List String) : Option String :=
  match Command.ofArguments arguments with
  | .ok (.stats path) => path
  | _ => none

/-- Runs a command. -/
def perform (host : Host) : Command → Exit
  | .stress threads allocs size capacity =>
    match Stress.run host.grants (host.crew threads allocs) threads allocs size capacity with
    | .ok summary => .summarized summary
    | .error (.refused message) => .refused message
    | .error .panicked => .panicked "a thread panicked"
  | .chain depth cycle => .ofAnswer (Chain.run host.grants depth cycle)
  | .stats none => .ofAnswer (Sample.run host.grants {})
  | .stats (some path) =>
    match host.fileText path with
    | .error e => .refused e.message
    | .ok text =>
      match Config.read text with
      | .error e => .refused (readErrorMessage e)
      | .ok config => .ofAnswer (Sample.run host.grants config)

/-- Runs the program on its arguments. -/
def run (host : Host) (arguments : List String) : Exit :=
  match Command.ofArguments arguments with
  | .ok command => perform host command
  | .error .mistaken => ⟨2, "", "error: the arguments do not fit\n"⟩
  | .error .help => ⟨0, "Usage: heap-js-cli [--trace] <stress|chain|stats> [OPTIONS]\n", ""⟩
  | .error .version => ⟨0, "heap-js-cli 0.1.0\n", ""⟩

end HandleHeap.CommandLine
