import HandleHeap.Heap.Movement
import HandleHeap.Slot

/-!
# Property slots

A property array is a sequence of slots. Reading past its end, or through a handle that names no
property array, gives the empty slot; writing there is refused.
-/

namespace HandleHeap.Heap

/-- Where cell `index` starts in a record of `len` bytes made of cells of `stride` bytes. -/
def cell (len : Nat) (index : UInt32) (stride : Nat) : Except Stop Nat :=
  let count := len / stride
  if index.toNat < count then .ok (index.toNat * stride)
  else .error (.refused (.indexOutOfBounds index (UInt32.ofNat count)))

/-- The number of slots of a property array, 0 where there is none. -/
def slotCapacity (heap : Heap) (storage : Handle) : Report Stop UInt32 :=
  Report.withDefault (do
    let block ← heap.record storage .propertyArray
    return UInt32.ofNat (block.len / Slot.size)) 0

def trySlot (heap : Heap) (storage : Handle) (index : UInt32) : Report Stop (Slot Handle) := do
  let block ← heap.record storage .propertyArray
  let start ← Report.ofExcept (cell block.len index Slot.size)
  let bytes ← heap.slice block start Slot.size
  return Slot.decode bytes

/-- The slot at an index, or the empty slot where it cannot be reached. -/
def slot (heap : Heap) (storage : Handle) (index : UInt32) : Report Stop (Slot Handle) :=
  (heap.trySlot storage index).withDefault .empty

def setSlot (storage : Handle) (index : UInt32) (slot : Slot Handle) : HeapAction Unit := do
  let block ← Action.look (·.record storage .propertyArray)
  let start ← Action.look fun _ => Report.ofExcept (cell block.len index Slot.size)
  patch block start slot.encode

/-- The value of a data property, undefined for any other slot. -/
def slotValue (heap : Heap) (storage : Handle) (index : UInt32) : Report Stop (Value Handle) :=
  return (← heap.slot storage index).value?.getD .undefined

def setSlotValue (storage : Handle) (index : UInt32) (value : Value Handle) : HeapAction Unit :=
  setSlot storage index (.value value)

/-- The getter of an accessor, null for any other slot. -/
def slotGetter (heap : Heap) (storage : Handle) (index : UInt32) : Report Stop Handle :=
  return (← heap.slot storage index).getter

/-- The setter of an accessor, null for any other slot. -/
def slotSetter (heap : Heap) (storage : Handle) (index : UInt32) : Report Stop Handle :=
  return (← heap.slot storage index).setter

/-- The shared variable of a slot, null for any other slot. -/
def slotVarRef (heap : Heap) (storage : Handle) (index : UInt32) : Report Stop Handle :=
  return (← heap.slot storage index).varTarget

/-- Replaces the getter and keeps the setter. A slot that was no accessor becomes one. -/
def setSlotGetter (storage : Handle) (index : UInt32) (getter : Handle) : HeapAction Unit := do
  let slot ← Action.look (·.trySlot storage index)
  setSlot storage index (.accessor getter slot.setter)

/-- Replaces the setter and keeps the getter. A slot that was no accessor becomes one. -/
def setSlotSetter (storage : Handle) (index : UInt32) (setter : Handle) : HeapAction Unit := do
  let slot ← Action.look (·.trySlot storage index)
  setSlot storage index (.accessor slot.getter setter)

def setSlotVarRef (storage : Handle) (index : UInt32) (target : Handle) : HeapAction Unit :=
  setSlot storage index (.varRef target)

/-- Makes a property array at least `capacity` slots long. New slots are empty, and an array that
is long enough stays where it is. -/
def growProperties (storage : Handle) (capacity : UInt32) : HeapAction Unit := do
  let current ← Action.look (·.slotCapacity storage)
  if capacity ≤ current then
    let _ ← Action.look (·.locate storage .propertyArray)
  else growRecord storage .propertyArray (capacity.toNat * Slot.size)

end HandleHeap.Heap
