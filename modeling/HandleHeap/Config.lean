/-!
# Heap configuration
-/

namespace HandleHeap

/-- What a heap is made with. -/
structure Config where
  /-- The bytes of the arena. -/
  arenaCapacity : Nat := 512 * 1024 * 1024
  /-- How many handles room is made for at the start. -/
  initialHandles : Nat := 8192
  /-- The most distinct handle indices, or none for all that 32 bits allow. -/
  maxHandles : Option UInt32 := none
  /-- Shapes are interned in 2 to this power buckets. Brought into 1 to 16 when used. -/
  shapeHashBits : UInt8 := 8
  deriving DecidableEq, Repr, Inhabited

end HandleHeap
