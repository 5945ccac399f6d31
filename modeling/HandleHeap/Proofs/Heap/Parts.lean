import HandleHeap.Heap.Operation
import HandleHeap.Proofs.Action
import HandleHeap.Proofs.Arena.Reservation
import HandleHeap.Proofs.Handle.Generations

/-!
# Relations that every operation keeps

Apart from `reset` and `teardown`, all that an operation ever does to a heap is to ask the arena
for a block, to change bytes of a block, and to change the handle table, the buckets or the roots.
A relation between heaps that changes to one of these parts keep is kept by every operation that
changes no other part, in whatever state the heap is and whatever is answered.

* `makeObject`, `storeElement`, `passOver`: what the longer operations come to once they have read
  what they need. What is proved of one of them is used for the whole operation.
* `keeps_perform_of`: an operation keeps what changes to the parts that it may change keep.
* `keeps_perform`: a relation that changes to any part keep is kept by every operation.
* `keeps_perform_apart`: one that all but a change to the buckets keep is kept by the operations
  that leave the buckets alone.

`Heap.Evolves` is such a relation: what an operation leaves of the arena.
-/

namespace HandleHeap

open HandleHeap.Action

/-- A relation that holds between a heap before and after each change to its roots. -/
class KeptByRoots (related : Heap → Heap → Prop) : Prop extends Chained related where
  roots : ∀ (heap : Heap) (roots : RootSet), related heap { heap with roots }

/-- A relation that holds between a heap before and after each change to its buckets. The number of
buckets never changes. -/
class KeptByBuckets (related : Heap → Heap → Prop) : Prop extends Chained related where
  buckets : ∀ (heap : Heap) (buckets : ShapeBuckets), buckets.bits = heap.buckets.bits →
    related heap { heap with buckets }

/-- A relation that holds between a heap before and after each change to its arena. -/
class KeptByArena (related : Heap → Heap → Prop) : Prop extends Chained related where
  request : ∀ (heap : Heap) (size : Nat),
    related heap { heap with arena := (Arena.allocate size heap.arena).state }
  content : ∀ (heap : Heap) (block : Block) (arena : Arena), Arena.OnlyIn block heap.arena arena →
    related heap { heap with arena }

/-- A relation that holds between a heap before and after a handle is issued for a new record. -/
class KeptByMaking (related : Heap → Heap → Prop) : Prop extends Chained related where
  register : ∀ (heap : Heap) (block : Block) (kind : RecordKind),
    related heap { heap with handles := heap.handles.perform (.register ⟨block, kind, false⟩) }

/-- A relation that holds between a heap before and after each operation on its handle table. -/
class KeptByTable (related : Heap → Heap → Prop) : Prop extends Chained related where
  handles : ∀ (heap : Heap) (operation : TableOperation Placement),
    related heap { heap with handles := heap.handles.perform operation }

/-- A relation that holds between a heap before and after a record is made. A change to the arena
or the table alone need not keep it. -/
class KeptByAllocating (related : Heap → Heap → Prop) : Prop extends Chained related where
  allocRecord : ∀ (kind : RecordKind) (size : Nat), (Heap.allocRecord kind size).Keeps related

/-- A relation that holds between a heap before and after each change to where records are, and to
which there are. -/
class KeptByPlacing (related : Heap → Heap → Prop) : Prop extends KeptByAllocating related where
  growRecord : ∀ (handle : Handle) (kind : RecordKind) (size : Nat),
    (Heap.growRecord handle kind size).Keeps related
  relocate : ∀ handle : Handle, (Heap.relocate handle).Keeps related
  setPinned : ∀ (handle : Handle) (pinned : Bool), (Heap.setPinned handle pinned).Keeps related
  ends : ∀ handle : Handle, (Heap.onTable (HandleTable.invalidate handle)).Keeps related

/-- A relation that holds between a heap before and after each change to its buckets and roots. The
number of buckets never changes. -/
class KeptBySideTables (related : Heap → Heap → Prop) : Prop extends Chained related where
  sideTables : ∀ (heap : Heap) (buckets : ShapeBuckets) (roots : RootSet),
    buckets.bits = heap.buckets.bits → related heap { heap with buckets, roots }

/-- A relation that holds between a heap before and after each change to a part of it other than the
buckets. -/
class KeptByRecords (related : Heap → Heap → Prop) : Prop extends
  KeptByRoots related, KeptByArena related, KeptByTable related

/-- A relation that holds between a heap before and after each change to one of its parts. -/
class KeptByParts (related : Heap → Heap → Prop) : Prop extends
  KeptBySideTables related, KeptByArena related, KeptByTable related

section Instances

variable {related : Heap → Heap → Prop}

instance [KeptBySideTables related] : KeptByRoots related where
  roots heap roots := KeptBySideTables.sideTables heap heap.buckets roots rfl

instance [KeptBySideTables related] : KeptByBuckets related where
  buckets heap buckets bits := KeptBySideTables.sideTables heap buckets heap.roots bits

instance [KeptByTable related] : KeptByMaking related where
  register heap _ _ := KeptByTable.handles heap _

instance [KeptByParts related] : KeptByRecords related where

end Instances

namespace Heap

variable {related : Heap → Heap → Prop} {α : Type}

/-! ## Buckets and roots -/

section Roots

variable [KeptByRoots related]

theorem keeps_onRoots (action : Action Stop RootSet α) : (onRoots action).Keeps related :=
  ⟨fun heap => KeptByRoots.roots heap _⟩

theorem keeps_addRoot (handle : Handle) : (addRoot handle).Keeps related := by
  refine keeps_bind (keeps_look _) fun live => ?_
  split
  · exact keeps_bind (keeps_onRoots _) fun _ => keeps_bind (keeps_emit _) fun _ => keeps_pure _
  · exact keeps_refuse _

theorem keeps_setRoot (id : RootId) (handle : Handle) : (setRoot id handle).Keeps related := by
  refine keeps_bind (keeps_look _) fun live => ?_
  split
  · exact keeps_onRoots _
  · exact keeps_refuse _

end Roots

section Buckets

variable [KeptByBuckets related]

theorem keeps_onBuckets {change : ShapeBuckets → ShapeBuckets}
    (bits : ∀ buckets, (change buckets).bits = buckets.bits) : (onBuckets change).Keeps related :=
  ⟨fun heap => KeptByBuckets.buckets heap _ (bits heap.buckets)⟩

theorem keeps_countUnhashed : countUnhashed.Keeps related := by
  refine ⟨fun heap => ?_⟩
  unfold countUnhashed
  split
  · exact Chained.refl heap
  · exact KeptByBuckets.buckets heap _ rfl

end Buckets

/-! ## The handle table -/

section Table

variable [KeptByTable related]

/-- What is one operation on the handle table. -/
theorem keeps_onTable {action : Action Stop (HandleTable Placement) α}
    (operation : TableOperation Placement)
    (does : ∀ table, (action table).state = table.perform operation) :
    (onTable action).Keeps related :=
  ⟨fun heap => by
    have kept : related heap _ := KeptByTable.handles heap operation
    rw [← does] at kept
    exact kept⟩

theorem keeps_retarget (handle : Handle) (placement : Placement) :
    (onTable (HandleTable.relocate handle placement)).Keeps related :=
  keeps_onTable (.relocate handle placement) fun _ => rfl

theorem keeps_end (handle : Handle) :
    (onTable (HandleTable.invalidate handle)).Keeps related :=
  keeps_onTable (.invalidate handle) fun _ => rfl

theorem keeps_setPinned (handle : Handle) (pinned : Bool) :
    (setPinned handle pinned).Keeps related :=
  keeps_bind (keeps_look _) fun _ => keeps_retarget ..

end Table

theorem keeps_register [KeptByMaking related] (block : Block) (kind : RecordKind) :
    (onTable (HandleTable.register ⟨block, kind, false⟩)).Keeps related :=
  ⟨fun heap => KeptByMaking.register heap block kind⟩

/-! ## The arena -/

section Arena

variable [KeptByArena related]

/-- What asks the arena for one block, and changes bytes of that block alone. -/
theorem keeps_request {ε : Type} {size : Nat} {action : Action ε Arena Block}
    (requests : Arena.Requests size action) (explain : Arena → ε → AllocError) :
    (onArena explain action).Keeps related := by
  refine ⟨fun heap => ?_⟩
  obtain ⟨config, arena, handles, buckets, roots⟩ := heap
  have request : related _ _ := KeptByArena.request ⟨config, arena, handles, buckets, roots⟩ size
  show related _ ⟨config, (action arena).state, handles, buckets, roots⟩
  cases answer : (action arena).answer with
  | error e =>
    rw [requests.error answer]
    exact request
  | ok fresh =>
    have content : related _ _ :=
      KeptByArena.content ⟨config, _, handles, buckets, roots⟩ fresh _ (requests.ok answer).2
    exact Chained.trans request content

theorem keeps_changeArena {change : Arena → α × Arena} (block : Block)
    (h : ∀ arena, Arena.OnlyIn block arena (change arena).2) :
    (changeArena change).Keeps related :=
  ⟨fun heap => KeptByArena.content heap block _ (h heap.arena)⟩

/-! ## Fields, slots and elements -/

theorem keeps_patch (block : Block) (start : Nat) (source : List UInt8) :
    (patch block start source).Keeps related := by
  unfold patch
  split
  · exact keeps_changeArena block fun arena => Arena.onlyIn_overwrite arena block start source
  · exact keeps_fail _

theorem keeps_set {layout : Layout} {scalar : Scalar} (handle : Handle)
    (field : Field layout scalar) (value : scalar.Carrier Handle) :
    (set handle field value).Keeps related :=
  keeps_bind (keeps_look _) fun _ => keeps_patch ..

theorem keeps_overwrite (handle : Handle) (start : Nat) (source : List UInt8) :
    (overwrite handle start source).Keeps related := by
  refine keeps_bind (keeps_look _) fun known => ?_
  cases known with
  | none => exact keeps_pure _
  | some placement =>
    refine keeps_changeArena placement.block fun arena => ?_
    split
    · exact Arena.onlyIn_overwrite ..
    · exact .refl ..

theorem keeps_setSlot (storage : Handle) (index : UInt32) (slot : Slot Handle) :
    (setSlot storage index slot).Keeps related :=
  keeps_bind (keeps_look _) fun _ => keeps_bind (keeps_look _) fun _ => keeps_patch ..

theorem keeps_setCell (values : Handle) (index : UInt32) (value : Value Handle) :
    (setCell values index value).Keeps related :=
  keeps_bind (keeps_look _) fun _ => keeps_bind (keeps_look _) fun _ => keeps_patch ..

/-! ## The longer operations, in parts -/

/-- Fills in the fields of a new object. -/
def fillObject (shape object props : Handle) (classId : UInt16) : HeapAction Handle := do
  set object ObjectField.shape shape
  set object ObjectField.props props
  set object ObjectField.classId classId
  set object ObjectField.extensible true
  return object

/-- Fills in a new object that is to have slots, and ends it where there are none for it. -/
def furnishObject (shape object : Handle) (classId : UInt16) (slots : UInt32) :
    HeapAction Handle := do
  match ← attempt (allocProperties slots) with
  | .ok props => fillObject shape object props classId
  | .error e =>
    let _ ← onTable (HandleTable.invalidate object)
    refuse e

/-- Makes an object with a number of slots. -/
def makeObject (shape : Handle) (classId : UInt16) (slots : UInt32) : HeapAction Handle := do
  let object ← allocRecord .object Layout.object.size
  if 0 < slots then furnishObject shape object classId slots
  else fillObject shape object .null classId

theorem allocObject_eq (shape : Handle) (classId : UInt16) : allocObject shape classId = (do
    let slots ← if shape.isNull then pure 0 else look (·.tryGet shape ShapeField.propSize)
    makeObject shape classId slots) := by
  rfl

/-- Stores a value in the cell after the elements and counts it. -/
def fillCell (object array : Handle) (count : UInt32) (value : Value Handle) :
    HeapAction UInt32 := do
  setCell array count value
  if count.toNat + 1 < 0x100000000 then
    set object ObjectField.arrayCount (count + 1)
    return count
  else Action.fault .elementCountOverflow

/-- The same in a longer array if this one is full. -/
def storeElement (object array : Handle) (count : UInt32) (value : Value Handle) :
    HeapAction UInt32 := do
  let capacity ← look (·.elementCapacity object)
  if capacity ≤ count then
    growRecord array .elementArray (grownCapacity capacity * Value.size)
  fillCell object array count value

theorem pushElement_eq (object : Handle) (value : Value Handle) : pushElement object value = (do
    let count ← look (·.tryGet object ObjectField.arrayCount)
    let attached ← look (·.tryGet object ObjectField.arrayValues)
    let array ← if attached.isNull then attachElements object else pure attached
    storeElement object array count value) := rfl

/-- Takes a shape off the count. -/
def uncount : HeapAction Bool := do
  countUnhashed
  return true

/-- Takes the mark and the link of a shape away, and the shape off the count. -/
def unmark (shape : Handle) : HeapAction Bool := do
  set shape ShapeField.hashNext .null
  set shape ShapeField.isHashed false
  uncount

/-- Links what is before a shape to what follows it, and takes the mark of the shape away. -/
def passOver (shape : Handle) (hash : UInt32) (next previous : Handle) : HeapAction Bool := do
  if previous.isNull then
    onBuckets fun buckets => buckets.setHead (buckets.bucket hash) next
  else set previous ShapeField.hashNext next
  unmark shape

theorem unhashShape_eq (shape : Handle) : unhashShape shape = (do
    if ← look (·.tryGet shape ShapeField.isHashed) then
      let hash ← look (·.tryGet shape ShapeField.hash)
      let next ← look (·.tryGet shape ShapeField.hashNext)
      let previous ← look fun heap =>
        heap.predecessor shape heap.chainLimit .null (heap.buckets.head (heap.bucketOf hash))
      passOver shape hash next previous
    else return false) := rfl

/-! ## Making, moving and ending records -/

theorem keeps_fillObject (shape object props : Handle) (classId : UInt16) :
    (fillObject shape object props classId).Keeps related :=
  keeps_bind (keeps_set ..) fun _ => keeps_bind (keeps_set ..) fun _ =>
    keeps_bind (keeps_set ..) fun _ => keeps_bind (keeps_set ..) fun _ => keeps_pure _

theorem keeps_allocRecord [KeptByMaking related] (kind : RecordKind) (size : Nat) :
    (allocRecord kind size).Keeps related :=
  keeps_bind (keeps_request (Arena.requests_allocate _) _) fun block =>
    keeps_bind (keeps_changeArena block fun arena => Arena.onlyIn_clear arena block) fun _ =>
      keeps_bind (keeps_register ..) fun _ => keeps_bind (keeps_emit _) fun _ => keeps_pure _

section Placing

variable [KeptByTable related]

theorem keeps_growRecord (handle : Handle) (kind : RecordKind) (size : Nat) :
    (growRecord handle kind size).Keeps related :=
  keeps_bind (keeps_look _) fun _ =>
    keeps_bind (keeps_request (Arena.requests_reallocate ..) _) fun _ =>
      keeps_bind (keeps_look _) fun _ => keeps_bind (keeps_retarget ..) fun _ => keeps_emit _

theorem keeps_relocate (handle : Handle) : (relocate handle).Keeps related := by
  refine keeps_bind (keeps_look _) fun placement => ?_
  split
  · exact keeps_refuse _
  · refine keeps_bind (keeps_request (Arena.requests_allocate _) _) fun fresh =>
      keeps_bind (keeps_changeArena fresh fun arena => Arena.onlyIn_copy ..) fun copied => ?_
    cases copied with
    | none => exact keeps_refuse _
    | some _ => exact keeps_bind (keeps_retarget ..) fun _ => keeps_emit _

end Placing

instance [KeptByMaking related] : KeptByAllocating related where
  allocRecord := keeps_allocRecord

instance [KeptByTable related] : KeptByPlacing related where
  growRecord := keeps_growRecord
  relocate := keeps_relocate
  setPinned := keeps_setPinned
  ends := keeps_end

section Making

variable [KeptByAllocating related]

theorem keeps_allocShape (proto : Handle) (propSize : UInt32) :
    (allocShape proto propSize).Keeps related :=
  keeps_bind (KeptByAllocating.allocRecord ..) fun _ => keeps_bind (keeps_set ..) fun _ =>
    keeps_bind (keeps_set ..) fun _ => keeps_bind (keeps_set ..) fun _ => keeps_pure _

theorem keeps_attachElements (object : Handle) : (attachElements object).Keeps related :=
  keeps_bind (KeptByAllocating.allocRecord ..) fun _ => keeps_bind (keeps_set ..) fun _ =>
    keeps_bind (keeps_set ..) fun _ => keeps_pure _

end Making

section Moving

variable [KeptByPlacing related]

theorem keeps_furnishObject (shape object : Handle) (classId : UInt16) (slots : UInt32) :
    (furnishObject shape object classId slots).Keeps related := by
  refine keeps_bind (keeps_attempt (KeptByAllocating.allocRecord ..)) fun outcome => ?_
  cases outcome with
  | ok props => exact keeps_fillObject ..
  | error e => exact keeps_bind (KeptByPlacing.ends _) fun _ => keeps_refuse e

theorem keeps_makeObject (shape : Handle) (classId : UInt16) (slots : UInt32) :
    (makeObject shape classId slots).Keeps related := by
  refine keeps_bind (KeptByAllocating.allocRecord ..) fun object => ?_
  split
  · exact keeps_furnishObject ..
  · exact keeps_fillObject ..

theorem keeps_allocObject (shape : Handle) (classId : UInt16) :
    (allocObject shape classId).Keeps related := by
  rw [allocObject_eq]
  split
  · exact keeps_bind (keeps_pure _) fun slots => keeps_makeObject shape classId slots
  · exact keeps_bind (keeps_look _) fun slots => keeps_makeObject shape classId slots

omit [KeptByArena related] in
theorem keeps_growProperties (storage : Handle) (capacity : UInt32) :
    (growProperties storage capacity).Keeps related := by
  refine keeps_bind (keeps_look _) fun current => ?_
  split
  · exact keeps_bind (keeps_look _) fun _ => keeps_pure _
  · exact KeptByPlacing.growRecord ..

omit [KeptByPlacing related] in
theorem keeps_fillCell (object array : Handle) (count : UInt32)
    (value : Value Handle) : (fillCell object array count value).Keeps related := by
  refine keeps_bind (keeps_setCell ..) fun _ => ?_
  split
  · exact keeps_bind (keeps_set ..) fun _ => keeps_pure _
  · exact keeps_fail _

theorem keeps_storeElement (object array : Handle) (count : UInt32) (value : Value Handle) :
    (storeElement object array count value).Keeps related := by
  refine keeps_bind (keeps_look _) fun capacity => ?_
  split
  · exact keeps_bind (KeptByPlacing.growRecord ..) fun _ => keeps_fillCell ..
  · exact keeps_fillCell ..

theorem keeps_pushElement (object : Handle) (value : Value Handle) :
    (pushElement object value).Keeps related := by
  rw [pushElement_eq]
  refine keeps_bind (keeps_look _) fun count => keeps_bind (keeps_look _) fun attached => ?_
  split
  · exact keeps_bind (keeps_attachElements object) fun _ => keeps_storeElement ..
  · exact keeps_bind (keeps_pure _) fun _ => keeps_storeElement ..

end Moving

/-! ## Interning and ending -/

section Interning

variable [KeptByBuckets related]

theorem keeps_hashShape (shape : Handle) : (hashShape shape).Keeps related := by
  refine keeps_bind (keeps_look _) fun hashed => ?_
  split
  · exact keeps_pure _
  · exact keeps_bind (keeps_look _) fun _ => keeps_bind (keeps_look _) fun _ =>
      keeps_bind (keeps_set ..) fun _ => keeps_bind (keeps_set ..) fun _ =>
        keeps_onBuckets fun _ => rfl

theorem keeps_unmark (shape : Handle) : (unmark shape).Keeps related :=
  keeps_bind (keeps_set ..) fun _ => keeps_bind (keeps_set ..) fun _ =>
    keeps_bind keeps_countUnhashed fun _ => keeps_pure _

theorem keeps_passOver (shape : Handle) (hash : UInt32) (next previous : Handle) :
    (passOver shape hash next previous).Keeps related := by
  unfold passOver
  split
  · exact keeps_bind (keeps_onBuckets fun _ => rfl) fun _ => keeps_unmark shape
  · exact keeps_bind (keeps_set ..) fun _ => keeps_unmark shape

theorem keeps_unhashShape (shape : Handle) : (unhashShape shape).Keeps related := by
  rw [unhashShape_eq]
  refine keeps_bind (keeps_look _) fun hashed => ?_
  split
  · exact keeps_bind (keeps_look _) fun _ => keeps_bind (keeps_look _) fun _ =>
      keeps_bind (keeps_look _) fun _ => keeps_passOver ..
  · exact keeps_pure _

theorem keeps_internShape [KeptByAllocating related] (proto : Handle) :
    (internShape proto).Keeps related := by
  refine keeps_bind (keeps_look _) fun known => ?_
  cases known with
  | some shape => exact keeps_bind (keeps_emit _) fun _ => keeps_pure _
  | none =>
    exact keeps_bind (keeps_allocShape ..) fun shape => keeps_bind (keeps_hashShape shape) fun _ =>
      keeps_bind (keeps_emit _) fun _ => keeps_pure _

/-- Ending a record takes it out of its bucket first. -/
theorem keeps_invalidate {handle : Handle}
    (ends : (onTable (HandleTable.invalidate handle)).Keeps related) :
    (invalidate handle).Keeps related := by
  refine keeps_bind (keeps_look _) fun kind => ?_
  extract_lets ended
  have keeps_ended (r : Unit) : (ended r).Keeps related := ends
  split
  · refine keeps_bind (keeps_look _) fun hashed => ?_
    split
    · refine keeps_bind (keeps_attempt (keeps_unhashShape handle)) fun outcome => ?_
      cases outcome with
      | ok _ => exact keeps_ended ()
      | error e => exact keeps_bind (keeps_emit _) keeps_ended
    · exact keeps_ended ()
  · exact keeps_ended ()

end Interning

end Arena

end Heap

/-! ## Walks -/

namespace Heap

variable {related : Heap → Heap → Prop} [Chained related] {σ β : Type}

/-- A walk changes nothing that its body does not change. -/
theorem keeps_walkFrom {body : σ → Handle → HeapAction (σ × Option β)}
    (keeps_body : ∀ own object, (body own object).Keeps related) (start : Handle)
    (remaining hops : Nat) (last current : Handle) (own : σ) :
    (walkFrom start body remaining hops last current own).Keeps related := by
  induction remaining generalizing hops last current own with
  | zero =>
    unfold walkFrom
    split
    · exact keeps_pure _
    · exact keeps_bind (keeps_emit _) fun _ => keeps_pure _
  | succ remaining ih =>
    unfold walkFrom
    split
    · exact keeps_pure _
    · refine keeps_bind (keeps_body own current) fun outcome => ?_
      obtain ⟨own, _ | value⟩ := outcome
      · exact keeps_bind (keeps_look _) fun next => ih ..
      · exact keeps_pure _

theorem keeps_walk {body : σ → Handle → HeapAction (σ × Option β)}
    (keeps_body : ∀ own object, (body own object).Keeps related) (start : Handle) (own : σ) :
    (walk start own body).Keeps related :=
  keeps_walkFrom keeps_body ..

theorem keeps_walkWithShape {body : σ → Handle → Handle → HeapAction (σ × Option β)}
    (keeps_body : ∀ own object shape, (body own object shape).Keeps related) (start : Handle)
    (own : σ) : (walkWithShape start own body).Keeps related := by
  unfold walkWithShape
  generalize maxChainDepth = remaining, 0 = hops, Handle.null = last
  suffices ∀ current,
      (walkWithShapeFrom start body remaining hops last current own).Keeps related from this start
  intro current
  induction remaining generalizing hops last current own with
  | zero =>
    unfold walkWithShapeFrom
    split
    · exact keeps_pure _
    · exact keeps_bind (keeps_emit _) fun _ => keeps_pure _
  | succ remaining ih =>
    unfold walkWithShapeFrom
    split
    · exact keeps_pure _
    · refine keeps_bind (keeps_look _) fun shape => ?_
      split
      · exact keeps_pure _
      · refine keeps_bind (keeps_body own current shape) fun outcome => ?_
        obtain ⟨own, _ | value⟩ := outcome
        · exact keeps_bind (keeps_look _) fun _ => keeps_bind (keeps_look _) fun _ => ih ..
        · exact keeps_pure _

/-- A test only looks, so a search changes nothing. -/
theorem keeps_search (start : Handle) (own : σ)
    (test : σ → Heap → Handle → Report Stop (σ × Bool)) :
    (search start own test).Keeps related :=
  keeps_bind (keeps_walk (fun _ _ => keeps_bind (keeps_look _) fun _ => keeps_pure _) start own)
    fun _ => keeps_pure _

theorem keeps_chainContains (start target : Handle) :
    (chainContains start target).Keeps related := by
  refine keeps_bind (keeps_search start () _) fun found => ?_
  obtain ⟨_, ended⟩ := found
  dsimp only
  cases ended.result with
  | ok found => exact keeps_pure _
  | error e => exact keeps_refuse _

end Heap

/-! ## Operations -/

namespace Operation

variable {related : Heap → Heap → Prop}

/-- Whether an operation rewinds the arena, which ends every record. -/
def rewinds {ρ : Type} : Operation ρ → Bool
  | reset | teardown => true
  | _ => false

theorem rewinds_map {ρ ρ' : Type} (f : ρ → ρ') (operation : Operation ρ) :
    (operation.map f).rewinds = operation.rewinds := by
  cases operation <;> rfl

theorem keeps_doing [Chained related] {action : HeapAction Unit} (h : action.Keeps related) :
    (doing action).Keeps related :=
  keeps_bind h fun _ => keeps_pure _

theorem keeps_looking [Chained related] {α : Type} (report : Heap → Report Stop α)
    (answer : α → Answer Handle) : (looking report answer).Keeps related :=
  keeps_bind (keeps_look report) fun _ => keeps_pure _

theorem keeps_answering [Chained related] {α : Type} {action : HeapAction α}
    (h : action.Keeps related) (answer : α → Answer Handle) :
    (action >>= fun a => pure (answer a)).Keeps related :=
  keeps_bind h fun _ => keeps_pure _

/-- Whether an operation may change the buckets. -/
def changesBuckets {ρ : Type} : Operation ρ → Bool
  | hashShape _ | unhashShape _ | internShape _ | invalidate _ | reset | teardown => true
  | _ => false

/-- Whether an operation may change the roots. -/
def changesRoots {ρ : Type} : Operation ρ → Bool
  | addRoot _ | setRoot .. | removeRoot _ | reset | teardown => true
  | _ => false

/-- Whether an operation may change the handle table other than by issuing handles. -/
def changesRecords {ρ : Type} : Operation ρ → Bool
  | allocObject .. | growProperties .. | pushElement .. | relocate _ | pin _ | unpin _
  | invalidate _ | reset | teardown => true
  | _ => false

/-- An operation keeps what each change to a part of the heap that it may change keeps. -/
theorem keeps_perform_of [KeptByArena related] [KeptByAllocating related]
    (operation : Operation Handle) (onward : operation.rewinds = false)
    (records : operation.changesRecords = true → KeptByPlacing related)
    (buckets : operation.changesBuckets = true → KeptByBuckets related)
    (roots : operation.changesRoots = true → KeptByRoots related) :
    operation.perform.Keeps related := by
  cases operation with
  | allocShape => exact keeps_answering (Heap.keeps_allocShape ..) _
  | allocProperties | allocElements => exact keeps_answering (KeptByAllocating.allocRecord ..) _
  | reserve => exact keeps_answering (Heap.keeps_request (Arena.requests_allocate _) _) _
  | set => exact keeps_doing (Heap.keeps_set ..)
  | overwrite => exact keeps_answering (Heap.keeps_overwrite ..) _
  | setSlot | setSlotValue | setSlotVarRef => exact keeps_doing (Heap.keeps_setSlot ..)
  | setSlotGetter | setSlotSetter =>
    exact keeps_doing (keeps_bind (keeps_look _) fun _ => Heap.keeps_setSlot ..)
  | setElement => exact keeps_doing (keeps_bind (keeps_look _) fun _ => Heap.keeps_setCell ..)
  | chainContains => exact keeps_answering (Heap.keeps_chainContains ..) _
  | allocObject =>
    have := records rfl
    exact keeps_answering (Heap.keeps_allocObject ..) _
  | growProperties =>
    have := records rfl
    exact keeps_doing (Heap.keeps_growProperties ..)
  | pushElement =>
    have := records rfl
    exact keeps_answering (Heap.keeps_pushElement ..) _
  | relocate target =>
    have := records rfl
    exact keeps_doing (KeptByPlacing.relocate target)
  | pin | unpin =>
    have := records rfl
    exact keeps_doing (KeptByPlacing.setPinned ..)
  | invalidate target =>
    have := records rfl
    have := buckets rfl
    exact keeps_answering (Heap.keeps_invalidate (KeptByPlacing.ends target)) _
  | internShape proto =>
    have := buckets rfl
    exact keeps_answering (Heap.keeps_internShape proto) _
  | hashShape shape =>
    have := buckets rfl
    exact keeps_doing (Heap.keeps_hashShape shape)
  | unhashShape shape =>
    have := buckets rfl
    exact keeps_answering (Heap.keeps_unhashShape shape) _
  | addRoot target =>
    have := roots rfl
    exact keeps_answering (Heap.keeps_addRoot target) _
  | setRoot =>
    have := roots rfl
    exact keeps_doing (Heap.keeps_setRoot ..)
  | removeRoot =>
    have := roots rfl
    exact keeps_answering (Heap.keeps_onRoots _) _
  | reset | teardown => cases onward
  | _ => exact keeps_looking ..

/-- An operation that leaves the buckets alone keeps what each change to another part of the heap
keeps. -/
theorem keeps_perform_apart [KeptByRecords related] (operation : Operation Handle)
    (apart : operation.changesBuckets = false) : operation.perform.Keeps related := by
  have onward : operation.rewinds = false := by
    cases operation <;> first | rfl | cases apart
  exact keeps_perform_of operation onward (fun _ => inferInstance)
    (fun touched => absurd (apart.symm.trans touched) Bool.false_ne_true) fun _ => inferInstance

/-- Every operation but a rewind keeps what each change to a part of the heap keeps. -/
theorem keeps_perform [KeptByParts related] (operation : Operation Handle)
    (onward : operation.rewinds = false) : operation.perform.Keeps related :=
  keeps_perform_of operation onward (fun _ => inferInstance) (fun _ => inferInstance)
    fun _ => inferInstance

end Operation

/-! ## The arena -/

/-- What an operation leaves of an arena whose next block would be aligned. -/
structure Heap.Evolves (before after : Heap) : Prop where
  regular : after.arena.Regular
  capacity : after.arena.capacity = before.arena.capacity
  initialized : after.arena.initialized = before.arena.initialized
  /-- An arena that was torn down turns every request down. -/
  idle : before.arena.initialized = false → after.arena.used = before.arena.used

instance : KeptByParts fun before after : Heap => before.arena.Regular → before.Evolves after where
  refl _ regular := ⟨regular, rfl, rfl, fun _ => rfl⟩
  trans first second regular :=
    have middle := first regular
    have last := second middle.regular
    ⟨last.regular, last.capacity.trans middle.capacity,
      last.initialized.trans middle.initialized,
      fun torn => (last.idle (middle.initialized.trans torn)).trans (middle.idle torn)⟩
  request heap size regular := by
    have moved := Arena.state_allocate regular.used_lt size
    refine ⟨regular.allocate size, by rw [moved], by rw [moved], fun torn => ?_⟩
    rw [moved, Arena.asked_of_torn torn]
    exact Nat.mod_eq_of_lt regular.used_lt
  content _ _ _ changed regular :=
    ⟨regular.onlyIn changed, changed.capacity, changed.initialized, fun _ => changed.used⟩
  handles _ _ regular := ⟨regular, rfl, rfl, fun _ => rfl⟩
  sideTables _ _ _ _ regular := ⟨regular, rfl, rfl, fun _ => rfl⟩

theorem Operation.evolves_perform {heap : Heap} (regular : heap.arena.Regular)
    (operation : Operation Handle) (onward : operation.rewinds = false) :
    heap.Evolves (operation.perform heap).state := by
  have keeps : operation.perform.Keeps
      fun before after : Heap => before.arena.Regular → before.Evolves after :=
    keeps_perform operation onward
  exact keeps.step heap regular

/-! ## Writes into records -/

namespace Heap

/-- Only the arena was changed. -/
def OnlyArena (before after : Heap) : Prop := ∃ arena, after = { before with arena }

instance : Chained OnlyArena where
  refl heap := ⟨heap.arena, rfl⟩
  trans := by
    rintro a _ _ ⟨first, rfl⟩ ⟨second, rfl⟩
    exact ⟨second, rfl⟩

theorem onlyArena_changeArena {α : Type} (change : Arena → α × Arena) :
    (changeArena change).Keeps OnlyArena := ⟨fun _ => ⟨_, rfl⟩⟩

theorem onlyArena_set {layout : Layout} {scalar : Scalar} (handle : Handle)
    (field : Field layout scalar) (value : scalar.Carrier Handle) :
    (set handle field value).Keeps OnlyArena := by
  refine keeps_bind (keeps_look _) fun block => ?_
  unfold patch
  split
  · exact onlyArena_changeArena _
  · exact keeps_fail _

theorem onlyArena_overwrite (handle : Handle) (start : Nat) (source : List UInt8) :
    (overwrite handle start source).Keeps OnlyArena := by
  refine keeps_bind (keeps_look _) fun known => ?_
  cases known with
  | none => exact keeps_pure _
  | some placement => exact onlyArena_changeArena _

end Heap

end HandleHeap
