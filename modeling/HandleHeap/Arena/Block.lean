/-!
# Blocks

A block is the arena's name for a run of bytes it handed out. It carries the length that was
asked for and the epoch of the arena at that time, so the arena can tell a block of the current
epoch from one that a reset made meaningless.

Blocks start at multiples of `alignment` and are padded to it. `padded?` is that rounding; it
gives nothing where the rounded size would not fit in 64 bits.
-/

namespace HandleHeap

/-- Every block starts at, and is padded to, a multiple of this many bytes. -/
def alignment : Nat := 16

/-- The number of different 64-bit sizes. -/
def sizeLimit : Nat := 0x10000000000000000

/-- The most bytes that room can be made for in one piece. -/
def roomLimit : Nat := 0x7fffffffffffffff

/-- A size rounded up to the alignment, if the rounding stays within 64 bits. -/
def padded? (size : Nat) : Option Nat :=
  if size + (alignment - 1) < sizeLimit then
    some ((size + (alignment - 1)) / alignment * alignment)
  else none

/-- A run of bytes that an arena handed out. -/
structure Block where
  offset : Nat
  /-- The length that was asked for, without padding. -/
  len : Nat
  /-- The epoch of the arena when the block was handed out. -/
  epoch : UInt32
  deriving DecidableEq, Repr, Inhabited

namespace Block

/-- The end of the bytes a block occupies, padding included. -/
def reservedEnd (block : Block) : Nat :=
  block.offset + (padded? block.len).getD block.len

/-- How a block appears in events: offset in hexadecimal, length, epoch. -/
def describe (block : Block) : String :=
  "ArenaPtr(0x" ++ String.ofList (Nat.toDigits 16 block.offset) ++ "+" ++ toString block.len ++
    "@" ++ toString block.epoch.toNat ++ ")"

end Block

theorem padded?_eq_some_iff {size padded : Nat} :
    padded? size = some padded ↔
      size + 15 < 0x10000000000000000 ∧ padded % 16 = 0 ∧ size ≤ padded ∧ padded < size + 16 := by
  unfold padded? alignment sizeLimit
  split
  next h =>
    simp only [Option.some.injEq]
    omega
  next h =>
    simp only [reduceCtorEq, false_iff]
    omega

end HandleHeap
