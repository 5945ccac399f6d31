import HandleHeap.Heap.Basic

/-!
# Heap statistics
-/

namespace HandleHeap

/-- How much of an arena is used. -/
structure ArenaUsage where
  used : Nat
  available : Nat
  capacity : Nat
  epoch : UInt32
  initialized : Bool
  deriving DecidableEq, Repr

/-- How much of an arena is used. -/
def Arena.usage (arena : Arena) : ArenaUsage :=
  ⟨arena.used, arena.available, arena.capacity, arena.epoch, arena.initialized⟩

/-- A count of records for each kind. -/
structure RecordCounts where
  objects : Nat
  shapes : Nat
  propertyArrays : Nat
  elementArrays : Nat
  deriving DecidableEq, Repr

/-- A snapshot of a heap. -/
structure HeapStats where
  arenaCapacity : Nat
  /-- The bump offset. It can pass the capacity after refused reservations. -/
  arenaUsed : Nat
  arenaAvailable : Nat
  arenaEpoch : UInt32
  liveHandles : Nat
  freeHandles : Nat
  handleCapacity : Nat
  hashedShapes : Nat
  roots : Nat
  /-- How many live records are pinned. -/
  pinned : Nat
  records : RecordCounts
  deriving DecidableEq, Repr

namespace Heap

/-- The number of live records of a kind. -/
def countKind (heap : Heap) (kind : RecordKind) : Nat :=
  heap.handles.toList.countP fun entry => entry.2.kind = kind

/-- A snapshot of the heap. -/
def stats (heap : Heap) : HeapStats where
  arenaCapacity := heap.arena.capacity
  arenaUsed := heap.arena.used
  arenaAvailable := heap.arena.available
  arenaEpoch := heap.arena.epoch
  liveHandles := heap.handles.live
  freeHandles := heap.handles.free.length
  handleCapacity := heap.handles.capacity
  hashedShapes := heap.buckets.hashed
  roots := heap.roots.count
  pinned := heap.handles.toList.countP fun entry => entry.2.pinned
  records :=
    { objects := heap.countKind .object
      shapes := heap.countKind .shape
      propertyArrays := heap.countKind .propertyArray
      elementArrays := heap.countKind .elementArray }

end Heap

end HandleHeap
