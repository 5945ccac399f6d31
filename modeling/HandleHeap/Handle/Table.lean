import HandleHeap.Action

/-!
# Handle tables

A table from handles to addresses. Each index has an entry: a generation, and an address while
the index is in use. Freeing an index advances its generation (modulo 2 ^ 32) and puts the index
on the free list; the index freed last is issued next, and only when no index is free does the
table grow.

The table keeps three accounts apart: the entries, the free list, and the number of live
handles. `register` and `invalidate` fault where the accounts contradict each other.

That the allocator has room for the entries is taken for granted: for the first ones up to the
`roomLimit`, beyond which making room faults, and for one more entry whenever the table grows.
`register` would be refused with `handleTableFull` without it, so here the limit on the indices is
the only reason for that.
-/

namespace HandleHeap

structure TableEntry (α : Type) where
  /-- The generation of the handle that the index has, or is issued with next. -/
  generation : UInt32
  /-- Present while the index is in use. -/
  address : Option α
  deriving Repr

/-- An entry after its handle was ended: a generation that was in use is over. -/
def TableEntry.ended {α : Type} (entry : TableEntry α) : TableEntry α :=
  match entry.address with
  | some _ => ⟨entry.generation + 1, none⟩
  | none => entry

structure HandleTable (α : Type) where
  /-- The entry of index `i + 1` is at position `i`: index 0 is never issued. -/
  entries : Array (TableEntry α)
  /-- Indices not in use, the one to be issued next in front. -/
  free : List UInt32
  live : Nat
  /-- The largest index the table may issue. -/
  limit : Nat
  deriving Repr

namespace HandleTable

variable {α ε : Type}

instance : Inhabited (HandleTable α) := ⟨⟨#[], [], 0, 0⟩⟩

/-- The table without entries. At most `max` distinct indices are ever issued; without a `max`
all but the last of the 32-bit indices can be. -/
def empty (max : Option UInt32) : HandleTable α :=
  ⟨#[], [], 0, (max.map UInt32.toNat).getD 0xfffffffe⟩

/-- The empty table with room made for `initial` handles, an entry taking `entrySize` bytes. -/
def withCapacity (entrySize initial : Nat) (max : Option UInt32) :
    Except Fault (HandleTable α) :=
  let room := min (initial + 1) (sizeLimit - 1)
  if roomLimit < entrySize * room then .error .capacityOverflow else .ok (empty max)

/-- The entry of an index. Index 0 has none. -/
def lookup (table : HandleTable α) (index : UInt32) : Option (TableEntry α) :=
  if index = 0 then none else table.entries[index.toNat - 1]?

/-- The address a handle stands for: that of its index, if the generation fits. -/
def resolve (table : HandleTable α) (handle : Handle) : Option α := do
  let entry ← table.lookup handle.index
  if entry.generation = handle.generation then entry.address else none

def isLive (table : HandleTable α) (handle : Handle) : Bool := (table.resolve handle).isSome

def setEntry (table : HandleTable α) (index : UInt32) (entry : TableEntry α) : HandleTable α :=
  { table with entries := table.entries.setIfInBounds (index.toNat - 1) entry }

def occupy (index : UInt32) (address : α) : Action Stop (HandleTable α) Handle := fun table =>
  match table.lookup index with
  | none => ⟨.error (.fault .freeListUnknown), table, []⟩
  | some ⟨_, some _⟩ => ⟨.error (.fault .freeListOccupied), table, []⟩
  | some ⟨generation, none⟩ =>
    let table := table.setEntry index ⟨generation, some address⟩
    ⟨.ok ⟨index, generation⟩, { table with live := table.live + 1 }, []⟩

def register (address : α) : Action Stop (HandleTable α) Handle := fun table =>
  match table.free with
  | index :: rest => occupy index address { table with free := rest }
  | [] =>
    let next := table.entries.size + 1
    if table.limit < next then ⟨.error (.refused .handleTableFull), table, []⟩
    else
      occupy (UInt32.ofNat next) address { table with entries := table.entries.push ⟨0, none⟩ }

def relocate (handle : Handle) (address : α) : Action Stop (HandleTable α) Unit := fun table =>
  if table.isLive handle then
    ⟨.ok (), table.setEntry handle.index ⟨handle.generation, some address⟩, []⟩
  else ⟨.error (.refused .invalidHandle), table, []⟩

/-- Ends a live handle and frees its index. Answers whether the handle was live. -/
def invalidate (handle : Handle) : Action Stop (HandleTable α) Bool := fun table =>
  if table.isLive handle then
    let table := table.setEntry handle.index ⟨handle.generation + 1, none⟩
    let table := { table with free := handle.index :: table.free }
    if table.live = 0 then ⟨.error (.fault .liveCountUnderflow), table, []⟩
    else ⟨.ok true, { table with live := table.live - 1 }, []⟩
  else ⟨.ok false, table, []⟩

/-- Ends every handle. The indices are issued again from 1 on. -/
def invalidateAll (table : HandleTable α) : HandleTable α :=
  { table with
    entries := table.entries.map TableEntry.ended
    free := (List.range' 1 table.entries.size).map UInt32.ofNat
    live := 0 }

/-- How many indices the table has, in use or free. -/
def capacity (table : HandleTable α) : Nat := table.entries.size

/-- The live handles and their addresses, by index. -/
def toList (table : HandleTable α) : List (Handle × α) :=
  table.entries.toList.zipIdx.filterMap fun (entry, position) =>
    entry.address.map fun address => (⟨UInt32.ofNat (position + 1), entry.generation⟩, address)

end HandleTable

end HandleHeap
