import HandleHeap.Heap.Basic

/-!
# Moving records

A record moves by taking a fresh block and pointing its handle there. Every holder of the handle
follows. `relocate` keeps the length and refuses a pinned record; `growRecord` takes a longer
block, zero beyond the old contents, and moves a pinned record too. Both keep kind and pin.
-/

namespace HandleHeap.Heap

/-- Moves a record of the expected kind to a block of another size. -/
def growRecord (handle : Handle) (kind : RecordKind) (size : Nat) : HeapAction Unit := do
  let old ← Action.look (·.locate handle kind)
  let fresh ← onArena (fun arena _ => .exhausted size arena.used arena.capacity)
    (Arena.reallocate (some old) size)
  let placement ← Action.look (·.placement handle)
  onTable (HandleTable.relocate handle { placement with block := fresh })
  Action.emit (.grew handle old fresh)

/-- Moves an unpinned record to a fresh block of the same length. -/
def relocate (handle : Handle) : HeapAction Unit := do
  let placement ← Action.look (·.placement handle)
  if placement.pinned then Action.refuse .pinned else
  let old := placement.block
  let fresh ← onArena (fun _ e => e) (Arena.allocate old.len)
  match ← changeArena (Arena.copy old fresh old.len) with
  | none => Action.refuse .invalidHandle
  | some _ =>
    onTable (HandleTable.relocate handle { placement with block := fresh })
    Action.emit (.relocated handle old fresh)

/-- Sets whether `relocate` refuses a record. -/
def setPinned (handle : Handle) (pinned : Bool) : HeapAction Unit := do
  let placement ← Action.look (·.placement handle)
  onTable (HandleTable.relocate handle { placement with pinned })

/-- Makes `relocate` refuse a record. -/
def pin (handle : Handle) : HeapAction Unit := setPinned handle true

/-- Lets `relocate` move a record again. -/
def unpin (handle : Handle) : HeapAction Unit := setPinned handle false

end HandleHeap.Heap
