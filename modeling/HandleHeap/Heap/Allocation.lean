import HandleHeap.Heap.Basic
import HandleHeap.Shape.Hash
import HandleHeap.Slot

/-!
# Making records

A new record is a zeroed block and a fresh handle for it. An object whose shape asks for property
slots comes with a property array; if that array cannot be made, the object's handle is given
back, so a refused `allocObject` leaves no handle live.
-/

namespace HandleHeap.Heap

/-- Makes a zeroed record. -/
def allocRecord (kind : RecordKind) (size : Nat) : HeapAction Handle := do
  let block ← onArena (fun _ e => e) (Arena.allocate size)
  changeArena fun arena => ((), arena.clear block)
  let handle ← onTable (HandleTable.register ⟨block, kind, false⟩)
  Action.emit (.allocated kind size handle)
  return handle

/-- Makes a property array of empty slots. -/
def allocProperties (capacity : UInt32) : HeapAction Handle :=
  allocRecord .propertyArray (capacity.toNat * Slot.size)

/-- Makes an element array of undefined elements. -/
def allocElements (capacity : UInt32) : HeapAction Handle :=
  allocRecord .elementArray (capacity.toNat * Value.size)

/-- Makes an extensible object with a shape. A null-like shape asks for no property slots. -/
def allocObject (shape : Handle) (classId : UInt16) : HeapAction Handle := do
  let slots ←
    if shape.isNull then pure 0 else Action.look (·.tryGet shape ShapeField.propSize)
  let object ← allocRecord .object Layout.object.size
  let props ←
    if 0 < slots then
      match ← Action.attempt (allocProperties slots) with
      | .ok props => pure props
      | .error e =>
        let _ ← onTable (HandleTable.invalidate object)
        Action.refuse e
    else pure Handle.null
  set object ObjectField.shape shape
  set object ObjectField.props props
  set object ObjectField.classId classId
  set object ObjectField.extensible true
  return object

/-- Makes a shape that is in no bucket. -/
def allocShape (proto : Handle) (propSize : UInt32) : HeapAction Handle := do
  let shape ← allocRecord .shape Layout.shape.size
  set shape ShapeField.proto proto
  set shape ShapeField.hash proto.shapeHash
  set shape ShapeField.propSize propSize
  return shape

end HandleHeap.Heap
