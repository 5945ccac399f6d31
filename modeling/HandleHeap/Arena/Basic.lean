import HandleHeap.Action
import HandleHeap.Memory

/-!
# Arenas

An arena is one run of bytes handed out from front to back. The bump offset `used` is where the
next block starts. Nothing is freed alone: `reset` rewinds the offset and advances the epoch,
which makes every block of the earlier epoch meaningless.

A reservation that does not fit at the offset still advances it, and the bytes stay lost until
the next reset, so `used` may pass `capacity`. A request that could not fit even in an empty
arena leaves the offset alone. The offset is a 64-bit number and wraps.

Whether there is memory for an arena is for the allocator to say: its answer is a parameter of
`Arena.new`.
-/

namespace HandleHeap

/-- A run of bytes handed out from front to back. -/
structure Arena where
  memory : Memory
  capacity : Nat
  /-- The bump offset: where the next block starts. -/
  used : Nat
  /-- How often the arena was rewound or torn down, modulo 2 ^ 32. -/
  epoch : UInt32
  initialized : Bool

namespace Arena

instance : Inhabited Arena := ⟨⟨.empty, 0, 0, 0, false⟩⟩

/-- Whether the memory for an arena can be reserved. The allocator, whose answer for a number of
bytes is `grants`, is asked for some bytes only, and for no more than can be in one piece. -/
def reservable (grants : Nat → Bool) (capacity : Nat) : Bool :=
  0 < capacity && capacity ≤ roomLimit && grants capacity

/-- Reserves an arena of zeroed bytes. -/
def new (grants : Nat → Bool) (capacity : Nat) : Report AllocError Arena := do
  if reservable grants capacity then
    Report.emit (.arenaReady capacity)
    return ⟨.empty, capacity, 0, 0, true⟩
  else Report.fail (.reservationFailed capacity)

def available (arena : Arena) : Nat := arena.capacity - arena.used

/-- Whether a block is one of the current epoch and lies inside the arena. -/
def holds (arena : Arena) (block : Block) : Bool :=
  arena.initialized && block.epoch == arena.epoch && block.offset + block.len ≤ arena.capacity

def allocate (size : Nat) : Action AllocError Arena Block := fun arena =>
  if !arena.initialized then ⟨.error .uninitialized, arena, []⟩
  else if size = 0 then ⟨.error .zeroSize, arena, []⟩
  else
    let start := arena.used
    let capacity := arena.capacity
    let exhausted := AllocError.exhausted size start capacity
    match padded? size with
    | none => ⟨.error exhausted, arena, []⟩
    | some padded =>
      if capacity < padded then ⟨.error exhausted, arena, []⟩
      else
        let epoch := arena.epoch
        let advanced := { arena with used := (start + padded) % sizeLimit }
        if capacity < start + padded then
          ⟨.error exhausted, advanced, [.arenaExhausted size start capacity]⟩
        else ⟨.ok ⟨start, size, epoch⟩, advanced, []⟩

def bytes? (arena : Arena) (block : Block) : Option (List UInt8) :=
  if arena.holds block then some (arena.memory.read block.offset block.len) else none

/-- Overwrites the bytes of a block from position `start` on. What would pass the end of the
block is left out, and a block that the arena does not hold is left alone. -/
def overwrite (arena : Arena) (block : Block) (start : Nat) (source : List UInt8) : Arena :=
  if arena.holds block then
    { arena with
      memory := arena.memory.write (block.offset + start) (source.take (block.len - start)) }
  else arena

def clear (arena : Arena) (block : Block) : Arena :=
  if arena.holds block then
    { arena with memory := arena.memory.clear block.offset block.len }
  else arena

/-- Copies the first `len` bytes of one block to the start of another, at most as many as either
has, and answers how many. -/
def copy (source target : Block) (len : Nat) (arena : Arena) : Option Nat × Arena :=
  if arena.holds source && arena.holds target then
    let count := min len (min source.len target.len)
    let moved := arena.memory.read source.offset count
    (some count, { arena with memory := arena.memory.write target.offset moved })
  else (none, arena)

/-- Starts a new epoch at offset 0. The bytes stay as they are. -/
def reset {ε : Type} : Action ε Arena Unit := fun arena =>
  let freed := min arena.used arena.capacity
  let epoch := arena.epoch + 1
  ⟨.ok (), { arena with used := 0, epoch }, [.arenaReset freed epoch]⟩

/-- Gives the bytes back. The arena hands out nothing afterwards. -/
def teardown {ε : Type} : Action ε Arena Unit := fun arena =>
  if arena.initialized then
    ⟨.ok (), ⟨.empty, 0, 0, arena.epoch + 1, false⟩, [.arenaTornDown]⟩
  else ⟨.ok (), arena, []⟩

def describe (arena : Arena) : String :=
  "Arena \x7b capacity: " ++ toString arena.capacity ++ ", used: " ++ toString arena.used ++
    ", epoch: " ++ toString arena.epoch.toNat ++ ", initialized: " ++
    toString arena.initialized ++ " \x7d"

end Arena

end HandleHeap
