import HandleHeap.Action

/-!
# Root sets

The handles that a host holds on to, each in a numbered slot. The slot freed last is used next,
and only when none is free does the set grow.

As in a handle table, the slots, the free list and the count are three accounts, and an operation
faults where they contradict each other.
-/

namespace HandleHeap

/-- Handles in numbered slots. -/
structure RootSet where
  slots : Array (Option Handle)
  /-- Slots not in use, the one to be used next in front. -/
  free : List Nat
  /-- How many slots are in use. -/
  count : Nat
  deriving Repr, Inhabited

namespace RootSet

/-- The set without roots. -/
def empty : RootSet := ⟨#[], [], 0⟩

/-- The handle in a slot. -/
def get? (roots : RootSet) (id : RootId) : Option Handle := (roots.slots[id.index]?).join

/-- Stores a handle in a slot that is not in use. -/
def occupy (index : Nat) (handle : Handle) : Action Stop RootSet RootId := fun roots =>
  if index < roots.slots.size then
    ⟨.ok ⟨index⟩,
      { roots with
        slots := roots.slots.setIfInBounds index (some handle), count := roots.count + 1 },
      []⟩
  else ⟨.error (.fault .freeListUnknown), roots, []⟩

/-- Stores a handle in a free slot, or in a new one if none is free. -/
def add (handle : Handle) : Action Stop RootSet RootId := fun roots =>
  match roots.free with
  | index :: rest => occupy index handle { roots with free := rest }
  | [] =>
    let next := roots.slots.size
    if next < 0x100000000 then
      occupy next handle { roots with slots := roots.slots.push none }
    else ⟨.error (.refused .handleTableFull), roots, []⟩

/-- Stores another handle in a slot that is in use. -/
def set (id : RootId) (handle : Handle) : Action Stop RootSet Unit := fun roots =>
  if (roots.get? id).isSome then
    ⟨.ok (), { roots with slots := roots.slots.setIfInBounds id.index (some handle) }, []⟩
  else ⟨.error (.refused .unknownRoot), roots, []⟩

/-- Frees a slot. Answers whether it was in use. -/
def remove (id : RootId) : Action Stop RootSet Bool := fun roots =>
  if (roots.get? id).isSome then
    let roots :=
      { roots with
        slots := roots.slots.setIfInBounds id.index none, free := id.index :: roots.free }
    if roots.count = 0 then ⟨.error (.fault .rootCountUnderflow), roots, []⟩
    else ⟨.ok true, { roots with count := roots.count - 1 }, []⟩
  else ⟨.ok false, roots, []⟩

/-- The slots in use and their handles, by number. -/
def toList (roots : RootSet) : List (RootId × Handle) :=
  roots.slots.toList.zipIdx.filterMap fun (slot, index) =>
    slot.map fun handle => (⟨index⟩, handle)

end RootSet

end HandleHeap
