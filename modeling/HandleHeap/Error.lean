import HandleHeap.Record.Kind

/-!
# Refusals and faults

An operation can end in three ways: with an answer, with a *refusal* that tells the caller what
was wrong, or with a *fault*. A fault is a broken internal promise. Each fault is raised at the
one place that would otherwise go on with a wrong number or a byte outside its record, so "the
heap is sound" can be said as "no run ends in a fault".
-/

namespace HandleHeap

/-- Why an arena gives no block. -/
inductive AllocError
  /-- A request for no bytes: the arena hands out no empty block. -/
  | zeroSize
  /-- The request does not fit between `offset` and `capacity`. -/
  | exhausted (requested offset capacity : Nat)
  | uninitialized
  /-- The memory for an arena of this capacity cannot be reserved. -/
  | reservationFailed (capacity : Nat)
  deriving DecidableEq, Repr

/-- Why a heap refuses an operation. -/
inductive HeapError
  | outOfMemory (cause : AllocError)
  | handleTableFull
  /-- The handle is null-like, unknown, or names a record that is gone. -/
  | invalidHandle
  | kindMismatch (expected found : RecordKind)
  | indexOutOfBounds (index len : UInt32)
  | chainTooDeep
  | pinned
  | unknownRoot
  /-- The links of a shape bucket do not lead where they must. -/
  | shapeChainCorrupt
  deriving DecidableEq, Repr

/-- A broken internal promise. -/
inductive Fault
  | outsideRecord
  /-- The element count of an object would pass its 32 bits. -/
  | elementCountOverflow
  /-- More handles were freed than issued. -/
  | liveCountUnderflow
  /-- More roots were dropped than added. -/
  | rootCountUnderflow
  /-- More shapes were taken out of buckets than put in. -/
  | hashedCountUnderflow
  /-- A free index that is in use. -/
  | freeListOccupied
  /-- A free index or free root that does not exist. -/
  | freeListUnknown
  /-- A table was asked to make room for more bytes than can be addressed. -/
  | capacityOverflow
  | productOverflow
  deriving DecidableEq, Repr

/-- Why an operation ended without an answer. -/
inductive Stop
  | refused (error : HeapError)
  | fault (fault : Fault)
  deriving DecidableEq, Repr

def AllocError.message : AllocError → String
  | .zeroSize => "zero-size allocation"
  | .exhausted requested offset capacity =>
    "arena exhausted: requested " ++ toString requested ++ " bytes at offset " ++
      toString offset ++ " of " ++ toString capacity
  | .uninitialized => "arena is not initialized"
  | .reservationFailed capacity =>
    "failed to reserve " ++ toString capacity ++ " bytes for arena"

def HeapError.message : HeapError → String
  | .outOfMemory cause => "out of memory: " ++ cause.message
  | .handleTableFull => "handle table full"
  | .invalidHandle => "invalid handle"
  | .kindMismatch expected found =>
    "record kind mismatch: expected " ++ expected.describe ++ ", found " ++ found.describe
  | .indexOutOfBounds index len =>
    "index " ++ toString index.toNat ++ " out of bounds for length " ++ toString len.toNat
  | .chainTooDeep => "prototype chain too deep"
  | .pinned => "record is pinned"
  | .unknownRoot => "unknown root"
  | .shapeChainCorrupt => "shape hash chain is corrupt"

end HandleHeap
