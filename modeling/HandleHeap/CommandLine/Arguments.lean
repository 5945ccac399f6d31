/-!
# Arguments of the command line

`Command.ofArguments` tells what a list of arguments asks for. An option with a value is written
`--name value` or `--name=value`, and no option and no flag may be given twice. A value that is an
argument of its own does not start with a dash, unless it is the dash alone.

The arguments are read from left to right, and the first one that settles the matter does: a
request for help or for the version counts only if everything before it fits, values included.

* `Signature`: the options and flags that a command takes.
* `Given.collect`: sorts the arguments of a command.
* `Command.ofNamed`: a command with its arguments; `Command.ofArguments`: the whole line.
-/

namespace HandleHeap.CommandLine

/-- What the command line is asked to do. -/
inductive Command
  /-- Reserve `allocs` blocks of `size` bytes from each of many threads. -/
  | stress (threads allocs size : Nat) (capacity : Option Nat)
  /-- Build a prototype chain and search it. -/
  | chain (depth : Nat) (cycle : Bool)
  /-- Build a small object graph and report on the heap, configured by a file. -/
  | stats (config : Option String)
  deriving DecidableEq, Repr

inductive Usage
  | mistaken
  | help
  | version
  deriving DecidableEq, Repr

/-! ## Values -/

/-- A number of at most 64 bits: digits, perhaps after a plus sign. -/
def number? (text : String) : Option Nat :=
  let digits := match text.toList with
    | '+' :: rest => rest
    | all => all
  if digits.isEmpty || !digits.all Char.isDigit then none
  else
    let n := digits.foldl (fun n digit => n * 10 + (digit.toNat - '0'.toNat)) 0
    if n < 0x10000000000000000 then some n else none

/-- What the value of an option has to be. -/
inductive ValueKind
  | number
  | path
  deriving DecidableEq, Repr

/-- Whether a text is a value of a kind. A path is any text but the empty one. -/
def ValueKind.accepts : ValueKind → String → Bool
  | number, text => (number? text).isSome
  | path, text => text ≠ ""

/-- The options that a command takes, each with the kind of its value, and its flags. -/
structure Signature where
  options : List (String × ValueKind)
  flags : List String

/-! ## Options and flags given -/

structure Given where
  values : List (String × String)
  flags : List String

/-- Adds an option that was not given before, if its value is of the right kind. -/
def Given.addValue (given : Given) (kind : ValueKind) (name value : String) :
    Except Usage Given :=
  if (given.values.lookup name).isNone ∧ kind.accepts value then
    .ok { given with values := (name, value) :: given.values }
  else .error .mistaken

def Given.addFlag (given : Given) (name : String) : Except Usage Given :=
  if name ∈ given.flags then .error .mistaken
  else .ok { given with flags := name :: given.flags }

def Given.number? (given : Given) (name : String) : Option Nat :=
  (given.values.lookup name).bind CommandLine.number?

/-- The name and the value in an argument that has both. -/
def attached? (argument : String) : Option (String × String) :=
  let characters := argument.toList
  match characters.dropWhile (· ≠ '=') with
  | _ :: value =>
    some (String.ofList (characters.takeWhile (· ≠ '=')), String.ofList value)
  | [] => none

/-- Whether an argument cannot be the value of the option before it. -/
def startsOption (argument : String) : Bool :=
  match argument.toList with
  | ['-'] => false
  | '-' :: _ => true
  | _ => false

/-- Whether an argument is a bundle of short flags of which `letter` is the first. -/
def startsShort (letter : Char) (argument : String) : Bool :=
  match argument.toList with
  | '-' :: first :: _ => first = letter
  | _ => false

/-- Whether an argument asks for help. Short flags after the first are never looked at. -/
def asksHelp (argument : String) : Bool := argument = "--help" || startsShort 'h' argument

def asksVersion (argument : String) : Bool := argument = "--version" || startsShort 'V' argument

/-- Sorts arguments into options and flags. Two dashes end the options, and nothing may follow. -/
def Given.collect (signature : Signature) : Given → List String → Except Usage Given
  | given, [] => .ok given
  | given, argument :: rest =>
    if asksHelp argument then .error .help
    else if argument ∈ signature.flags then do
      (← given.addFlag argument).collect signature rest
    else match signature.options.lookup argument, rest with
      | some kind, value :: rest =>
        if startsOption value then .error .mistaken
        else do (← given.addValue kind argument value).collect signature rest
      | some _, [] => .error .mistaken
      | none, rest =>
        match attached? argument with
        | none => if argument = "--" ∧ rest = [] then .ok given else .error .mistaken
        | some (name, value) =>
          match signature.options.lookup name with
          | none => .error .mistaken
          | some kind => do (← given.addValue kind name value).collect signature rest

def Signature.collect (signature : Signature) (arguments : List String) : Except Usage Given :=
  Given.collect signature ⟨[], []⟩ arguments

/-! ## Commands -/

namespace Command

/-- The flag that every command takes. It may stand before the name of the command too. -/
def traceFlag : String := "--trace"

def stressSignature : Signature :=
  ⟨[("--threads", .number), ("--allocs", .number), ("--size", .number), ("--capacity", .number)],
    [traceFlag]⟩

def chainSignature : Signature := ⟨[("--depth", .number)], [traceFlag, "--cycle"]⟩

def statsSignature : Signature := ⟨[("--config", .path)], [traceFlag]⟩

/-- The command of a name with its own arguments. -/
def ofNamed (name : String) (arguments : List String) : Except Usage Command := do
  if name = "stress" then
    let given ← stressSignature.collect arguments
    return .stress ((given.number? "--threads").getD 8) ((given.number? "--allocs").getD 10000)
      ((given.number? "--size").getD 48) (given.number? "--capacity")
  else if name = "chain" then
    let given ← chainSignature.collect arguments
    return .chain ((given.number? "--depth").getD 100) ("--cycle" ∈ given.flags)
  else if name = "stats" then
    let given ← statsSignature.collect arguments
    return .stats (given.values.lookup "--config")
  else .error .mistaken

/-- What the words after `help` ask for: the name of one command at most. -/
def ofHelp : List String → Usage
  | [] => .help
  | [name] => if name ∈ ["stress", "chain", "stats", "help"] then .help else .mistaken
  | _ => .mistaken

/-- What the arguments ask for, the flags of all commands taken off. -/
def ofRest : List String → Except Usage Command
  | [] => .error .mistaken
  | argument :: rest =>
    if asksHelp argument then .error .help
    else if asksVersion argument then .error .version
    else if argument = "help" then .error (ofHelp rest)
    else ofNamed argument rest

def ofArguments : List String → Except Usage Command
  | argument :: rest => ofRest (if argument = traceFlag then rest else argument :: rest)
  | [] => .error .mistaken

end Command

end HandleHeap.CommandLine
