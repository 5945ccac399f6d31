import HandleHeap.Arena.Reallocate
import HandleHeap.Config
import HandleHeap.Handle.Table
import HandleHeap.Record.Layout
import HandleHeap.Roots
import HandleHeap.Shape.Buckets

/-!
# Heaps

One session's memory: an arena, the table of handles that name records in it, the heads of the
shape buckets, and the roots. A record is reached through its handle alone, and every access
resolves the handle anew, so nothing can outlive a move of the record.

## Main definitions

* `Heap`, `Heap.new`: the state, and how it starts.
* `Placement`: where a record is, of what kind it is, and whether it is pinned.
* `Heap.record`: the block of a handle of a needed kind. Every failure is reported as an event.
* `Heap.tryGet`, `Heap.get`, `Heap.set`: typed access to the fields of a record.
* `HeapAction`: work on a heap; `onArena`, `onTable`, `onRoots`, `onBuckets` work on its parts.
-/

namespace HandleHeap

/-- What the handle table stores for a record. -/
structure Placement where
  block : Block
  kind : RecordKind
  /-- A pinned record may not be relocated. -/
  pinned : Bool
  deriving DecidableEq, Repr, Inhabited

/-- The bytes that one entry of a heap's handle table takes. -/
def Placement.entrySize : Nat := 40

structure Heap where
  config : Config
  arena : Arena
  handles : HandleTable Placement
  buckets : ShapeBuckets
  roots : RootSet
  deriving Inhabited

/-- Work on a heap that can be refused. -/
abbrev HeapAction (α : Type) : Type := Action Stop Heap α

namespace Heap

/-- Makes the arena, for which the allocator has to grant the memory, then the handle table. -/
def new (grants : Nat → Bool) (config : Config) : Report Stop Heap := do
  let arena ← (Arena.new grants config.arenaCapacity).mapError (.refused ∘ .outOfMemory)
  let handles ← Report.ofExcept
    ((HandleTable.withCapacity Placement.entrySize config.initialHandles
      config.maxHandles).mapError .fault)
  return ⟨config, arena, handles, .new config.shapeHashBits, .empty⟩

/-! ## Work on a part of the heap -/

section Parts

variable {ε α : Type}

/-- Works on the arena. A refusal is explained from the arena as it is after the work. -/
def onArena (explain : Arena → ε → AllocError) (action : Action ε Arena α) : HeapAction α :=
  fun ⟨config, arena, handles, buckets, roots⟩ =>
    let out := action arena
    ⟨out.answer.mapError fun e => .refused (.outOfMemory (explain out.state e)),
      ⟨config, out.state, handles, buckets, roots⟩, out.events⟩

def changeArena (change : Arena → α × Arena) : HeapAction α :=
  fun ⟨config, arena, handles, buckets, roots⟩ =>
    let (answer, arena) := change arena
    ⟨.ok answer, ⟨config, arena, handles, buckets, roots⟩, []⟩

def onTable (action : Action Stop (HandleTable Placement) α) : HeapAction α :=
  fun ⟨config, arena, handles, buckets, roots⟩ =>
    let out := action handles
    ⟨out.answer, ⟨config, arena, out.state, buckets, roots⟩, out.events⟩

def onRoots (action : Action Stop RootSet α) : HeapAction α :=
  fun ⟨config, arena, handles, buckets, roots⟩ =>
    let out := action roots
    ⟨out.answer, ⟨config, arena, handles, buckets, out.state⟩, out.events⟩

def onBuckets (change : ShapeBuckets → ShapeBuckets) : HeapAction Unit :=
  Action.modify fun heap => { heap with buckets := change heap.buckets }

end Parts

/-! ## Resolving handles -/

def kind? (heap : Heap) (handle : Handle) : Option RecordKind :=
  (heap.handles.resolve handle).map Placement.kind

def isLive (heap : Heap) (handle : Handle) : Bool := heap.handles.isLive handle

def isPinned (heap : Heap) (handle : Handle) : Bool :=
  (heap.handles.resolve handle).any Placement.pinned

def bytes? (heap : Heap) (handle : Handle) : Option (List UInt8) := do
  let placement ← heap.handles.resolve handle
  heap.arena.bytes? placement.block

/-- Where the record of a handle is, of whatever kind it is. -/
def placement (heap : Heap) (handle : Handle) : Report Stop Placement :=
  match heap.handles.resolve handle with
  | some placement => pure placement
  | none => Report.refuse .invalidHandle

/-- The block of a handle that names a record of the expected kind. A failure is told to the
observer. -/
def locate (heap : Heap) (handle : Handle) (expected : RecordKind) : Report Stop Block :=
  match heap.handles.resolve handle with
  | none => do
    Report.emit (.unresolved handle expected)
    Report.refuse .invalidHandle
  | some placement =>
    if placement.kind = expected then pure placement.block
    else do
      Report.emit (.kindMismatch handle expected placement.kind)
      Report.refuse (.kindMismatch expected placement.kind)

/-- The block of a record, once the arena was seen to hold it. -/
def record (heap : Heap) (handle : Handle) (expected : RecordKind) : Report Stop Block := do
  let block ← heap.locate handle expected
  if heap.arena.holds block then return block else Report.refuse .invalidHandle

/-! ## Bytes of a record -/

/-- The `len` bytes of a record from position `start` on. -/
def slice (heap : Heap) (block : Block) (start len : Nat) : Report Stop (List UInt8) :=
  if start + len ≤ block.len then pure (heap.arena.memory.read (block.offset + start) len)
  else Report.fault .outsideRecord

def patch (block : Block) (start : Nat) (source : List UInt8) : HeapAction Unit :=
  if start + source.length ≤ block.len then
    changeArena fun arena => ((), arena.overwrite block start source)
  else Action.fault .outsideRecord

/-- Overwrites the bytes of the record a handle names, of whatever kind, from position `start`
on. What would pass the end of the record is left out. Answers the length of the record. -/
def overwrite (handle : Handle) (start : Nat) (source : List UInt8) : HeapAction (Option Nat) := do
  match ← Action.look fun heap => pure (heap.handles.resolve handle) with
  | none => return none
  | some placement =>
    changeArena fun arena =>
      if arena.holds placement.block then
        (some placement.block.len, arena.overwrite placement.block start source)
      else (none, arena)

/-! ## Fields -/

section Fields

variable {layout : Layout} {scalar : Scalar}

def tryGet (heap : Heap) (handle : Handle) (field : Field layout scalar) :
    Report Stop (scalar.Carrier Handle) := do
  let block ← heap.record handle layout.kind
  let bytes ← heap.slice block field.offset scalar.width
  return scalar.decode bytes

/-- What a field of a record holds, or the sentinel of its type where there is no such record. -/
def get (heap : Heap) (handle : Handle) (field : Field layout scalar) :
    Report Stop (scalar.Carrier Handle) :=
  (heap.tryGet handle field).withDefault scalar.sentinel

def set (handle : Handle) (field : Field layout scalar) (value : scalar.Carrier Handle) :
    HeapAction Unit := do
  let block ← Action.look (·.record handle layout.kind)
  patch block field.offset (scalar.encode value)

end Fields

/-- The prototype of an object, read through its shape. Null if either cannot be read. -/
def prototype (heap : Heap) (object : Handle) : Report Stop Handle := do
  let shape ← heap.get object ObjectField.shape
  if shape.isNull then return .null else heap.get shape ShapeField.proto

end Heap

end HandleHeap
