import HandleHeap.Heap.Allocation
import HandleHeap.Heap.Slots

/-!
# Dense elements

An object's dense elements are in an element array that its first push makes. The array doubles
when it is full. The object's count says how many of the cells are elements.
-/

namespace HandleHeap.Heap

/-- The number of elements that the first push makes room for. -/
def initialElementCapacity : UInt32 := 4

/-- The capacity after growth: twice the old one within 32 bits, and never below the initial
one. -/
def grownCapacity (capacity : UInt32) : Nat :=
  max (min (capacity.toNat * 2) 0xffffffff) initialElementCapacity.toNat

/-- The number of elements that an object has room for. -/
def elementCapacity (heap : Heap) (object : Handle) : Report Stop UInt32 := do
  let values ← heap.get object ObjectField.arrayValues
  if values.isNull then return 0
  Report.withDefault (do
    let block ← heap.record values .elementArray
    return UInt32.ofNat (block.len / Value.size)) 0

/-- The element array of an object whose count covers an index. -/
def elementStorage (heap : Heap) (object : Handle) (index : UInt32) : Report Stop Handle := do
  let count ← heap.tryGet object ObjectField.arrayCount
  if count ≤ index then Report.refuse (.indexOutOfBounds index count)
  else heap.tryGet object ObjectField.arrayValues

/-- The element at an index. -/
def tryElement (heap : Heap) (object : Handle) (index : UInt32) :
    Report Stop (Value Handle) := do
  let values ← heap.elementStorage object index
  let block ← heap.record values .elementArray
  let start ← Report.ofExcept (cell block.len index Value.size)
  let bytes ← heap.slice block start Value.size
  return Value.decode bytes

/-- The element at an index, or undefined where it cannot be reached. -/
def element (heap : Heap) (object : Handle) (index : UInt32) : Report Stop (Value Handle) :=
  (heap.tryElement object index).withDefault .undefined

/-- Stores a value in a cell of an element array. -/
def setCell (values : Handle) (index : UInt32) (value : Value Handle) : HeapAction Unit := do
  let block ← Action.look (·.record values .elementArray)
  let start ← Action.look fun _ => Report.ofExcept (cell block.len index Value.size)
  patch block start value.encode

/-- Replaces an element. -/
def setElement (object : Handle) (index : UInt32) (value : Value Handle) : HeapAction Unit := do
  let values ← Action.look (·.elementStorage object index)
  setCell values index value

/-- Gives an object the element array of its first push. -/
def attachElements (object : Handle) : HeapAction Handle := do
  let values ← allocElements initialElementCapacity
  set object ObjectField.arrayValues values
  set object ObjectField.fastArray true
  return values

/-- Appends an element and answers its index. -/
def pushElement (object : Handle) (value : Value Handle) : HeapAction UInt32 := do
  let count ← Action.look (·.tryGet object ObjectField.arrayCount)
  let attached ← Action.look (·.tryGet object ObjectField.arrayValues)
  let values ← if attached.isNull then attachElements object else pure attached
  let capacity ← Action.look (·.elementCapacity object)
  if capacity ≤ count then
    growRecord values .elementArray (grownCapacity capacity * Value.size)
  setCell values count value
  if count.toNat + 1 < 0x100000000 then
    set object ObjectField.arrayCount (count + 1)
    return count
  else Action.fault .elementCountOverflow

end HandleHeap.Heap
