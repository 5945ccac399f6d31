import HandleHeap.Heap.Interning

/-!
# Ending records

`invalidate` ends one record, taking a shape out of its bucket first. `reset` ends all of them and
rewinds the arena for the next session; `teardown` ends all of them for good.
-/

namespace HandleHeap.Heap

/-- Ends a record. Answers whether the handle was live. A shape whose bucket is corrupt is ended
all the same; its bucket then keeps a dead link. -/
def invalidate (handle : Handle) : HeapAction Bool := do
  if (← Action.look fun heap => pure (heap.kind? handle)) = some .shape then
    if ← Action.look (·.get handle ShapeField.isHashed) then
      match ← Action.attempt (unhashShape handle) with
      | .ok _ => pure ()
      | .error e => Action.emit (.unhashFailed handle e)
  onTable (HandleTable.invalidate handle)

/-- Ends every record and forgets the roots and the interned shapes. -/
def endAll (heap : Heap) : Heap :=
  { heap with
    handles := heap.handles.invalidateAll
    roots := .empty
    buckets := heap.buckets.clear }

/-- Starts the next session on the same memory. -/
def reset : HeapAction Unit := do
  let live ← Action.look fun heap => pure heap.handles.live
  Action.modify endAll
  onArena (fun _ e => e) Arena.reset
  Action.emit (.heapReset live)

/-- Ends the last session and gives the memory back. -/
def teardown : HeapAction Unit := do
  Action.modify endAll
  onArena (fun _ e => e) Arena.teardown

end HandleHeap.Heap
