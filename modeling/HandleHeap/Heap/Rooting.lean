import HandleHeap.Heap.Basic

/-!
# Roots of a heap

A host adds the records it holds on to as roots. Only a live record can become one. A root keeps
its handle until it is removed, also when the record ends.
-/

namespace HandleHeap.Heap

/-- Makes a live record a root. -/
def addRoot (handle : Handle) : HeapAction RootId := do
  if ← Action.look fun heap => pure (heap.isLive handle) then
    let id ← onRoots (RootSet.add handle)
    Action.emit (.rootAdded id handle)
    return id
  else Action.refuse .invalidHandle

/-- The handle of a root. -/
def getRoot (heap : Heap) (id : RootId) : Option Handle := heap.roots.get? id

/-- Points a root at another live record. -/
def setRoot (id : RootId) (handle : Handle) : HeapAction Unit := do
  if ← Action.look fun heap => pure (heap.isLive handle) then onRoots (RootSet.set id handle)
  else Action.refuse .invalidHandle

/-- Drops a root. Answers whether the id was in use. -/
def removeRoot (id : RootId) : HeapAction Bool := onRoots (RootSet.remove id)

end HandleHeap.Heap
