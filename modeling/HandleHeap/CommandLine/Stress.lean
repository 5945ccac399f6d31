import HandleHeap.Arena.Basic
import HandleHeap.CommandLine.Summary

/-!
# Reserving from many threads

Each of `threads` threads reserves `allocs` blocks of `size` bytes from one arena. A reservation
is a single step of the arena, so a run is a *schedule*: the order in which the threads take their
turns. The summary counts what was reserved and whether any two blocks overlap; it does not say
which thread got which block.

The threads, and the lists of what they are given, need room of their own. What becomes of them is
a parameter of a run, a `Crew`, as the order of their turns is. Only that the allocator runs out of
memory for such a list, which ends the program at once, is left out.
-/

namespace HandleHeap.CommandLine.Stress

/-- Why a run ends without a summary. -/
inductive Failure
  | refused (message : String)
  /-- The program itself panics. -/
  | panicked
  deriving DecidableEq, Repr

/-- The capacity that is just enough for every reservation, within 64 bits. -/
def exactCapacity? (threads allocs size : Nat) : Option Nat := do
  let padded ← padded? size
  let perThread ← if padded * allocs < sizeLimit then some (padded * allocs) else none
  if perThread * threads < sizeLimit then some (perThread * threads) else none

/-- The capacity of the arena: the one given, or else just enough. -/
def capacity (threads allocs size : Nat) (given : Option Nat) : Except Failure Nat :=
  match given <|> exactCapacity? threads allocs size with
  | some capacity => .ok capacity
  | none => .error (.refused "stress arena capacity overflows usize; pass --capacity")

/-- What a reservation of a thread gave. -/
abbrev Served : Type := Nat × Except AllocError Block

/-- Lets the threads reserve in the order of a schedule. -/
def serve (size : Nat) : (schedule : List Nat) → (served : List Served) → Arena →
    List Served × Arena
  | [], served, arena => (served.reverse, arena)
  | thread :: schedule, served, arena =>
    let out := Arena.allocate size arena
    serve size schedule ((thread, out.answer) :: served) out.state

/-- What each thread was given, thread by thread. -/
def byThread (threads : Nat) (served : List Served) : List (Except AllocError Block) :=
  (List.range threads).flatMap fun thread =>
    served.filterMap fun (owner, given) => if owner = thread then some given else none

/-- The reserved bytes of the blocks given, as start and end, by start. -/
def ranges (given : List (Except AllocError Block)) : List (Nat × Nat) :=
  let blocks := given.filterMap Except.toOption
  (blocks.map fun block => (block.offset, block.reservedEnd)).mergeSort fun a b => a.1 ≤ b.1

/-- How many neighbours in a list of byte ranges overlap. -/
def overlaps (ranges : List (Nat × Nat)) : Nat :=
  (ranges.zip ranges.tail).countP fun (first, second) => second.1 < first.2

/-- The schedule in which each thread finishes before the next one starts. -/
def inTurn (threads allocs : Nat) : List Nat :=
  (List.range threads).flatMap fun thread => List.replicate allocs thread

/-- The counts of a stress run. -/
structure Totals where
  succeeded : Nat
  failed : Nat
  overlapping : Nat
  used : Nat
  capacity : Nat
  deriving DecidableEq, Repr

/-- Runs a schedule on an arena. -/
def totals (threads size : Nat) (schedule : List Nat) (arena : Arena) : Totals :=
  let (served, arena) := serve size schedule [] arena
  let given := byThread threads served
  let ranges := ranges given
  { succeeded := ranges.length
    failed := given.countP fun answer => answer.toOption.isNone
    overlapping := overlaps ranges
    used := arena.used
    capacity := arena.capacity }

/-- What the command prints of the totals. -/
def summary (threads allocs size : Nat) (totals : Totals) : Summary :=
  .object
    [("threads", .number threads), ("allocs_per_thread", .number allocs),
      ("size", .number size), ("succeeded", .number totals.succeeded),
      ("failed", .number totals.failed), ("overlapping", .number totals.overlapping),
      ("arena_used", .number totals.used), ("arena_capacity", .number totals.capacity)]

/-- What becomes of the threads of a run. -/
inductive Crew
  /-- They are not all started: there is no room for one of them, or for the list of them. -/
  | unstarted
  /-- They are, and their requests take effect in the order of a schedule. So many of them are
  `lost`: they panic, for want of room for the list of what they are given. -/
  | started (schedule : List Nat) (lost : Nat)
  deriving DecidableEq, Repr

/-- Waits for the threads, and gives the order in which their requests took effect. They are joined
one by one up to the first that is lost, which is told. Another one that is lost takes the program
down with it. -/
def Crew.join : Crew → Except Failure (List Nat)
  | unstarted => .error .panicked
  | started schedule 0 => .ok schedule
  | started _ 1 => .error (.refused "stress worker panicked")
  | started _ _ => .error .panicked

/-- Runs the stress command. -/
def run (grants : Nat → Bool) (crew : Crew) (threads allocs size : Nat) (given : Option Nat) :
    Except Failure Summary := do
  let capacity ← capacity threads allocs size given
  let arena ← (Arena.new grants capacity).answer.mapError fun e => .refused e.message
  let schedule ← crew.join
  return summary threads allocs size (totals threads size schedule arena)

end HandleHeap.CommandLine.Stress
