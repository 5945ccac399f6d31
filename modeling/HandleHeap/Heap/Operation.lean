import HandleHeap.Heap.Elements
import HandleHeap.Heap.Lifetime
import HandleHeap.Heap.PrototypeChain
import HandleHeap.Heap.Rooting
import HandleHeap.Heap.Stats

/-!
# The public operations of a heap

Every operation that a heap offers, as data, so that a run of a heap is a list of operations.
`Operation ρ` names records by `ρ`; `Operation.perform` runs one whose records are named by
handle. Walks with a body of their own are not among them: a body is a function.

* `Operation.perform`: what an operation does and answers.
* `Heap.run`: the state after a list of operations, whether they succeed or are refused.
-/

namespace HandleHeap

/-- An operation on a heap whose records are named by `ρ`. -/
inductive Operation (ρ : Type)
  | allocObject (shape : ρ) (classId : UInt16)
  | allocShape (proto : ρ) (propSize : UInt32)
  | allocProperties (capacity : UInt32)
  | allocElements (capacity : UInt32)
  /-- Takes a block straight from the arena. -/
  | reserve (size : Nat)
  | arenaUsage
  | config
  | stats
  | kind (target : ρ)
  | isLive (target : ρ)
  | isPinned (target : ρ)
  | invalidate (target : ρ)
  | get {layout : Layout} {scalar : Scalar} (target : ρ) (field : Field layout scalar)
  | tryGet {layout : Layout} {scalar : Scalar} (target : ρ) (field : Field layout scalar)
  | set {layout : Layout} {scalar : Scalar} (target : ρ) (field : Field layout scalar)
    (value : scalar.Carrier ρ)
  | bytes (target : ρ)
  | overwrite (target : ρ) (start : Nat) (source : List UInt8)
  | prototype (object : ρ)
  | slotCapacity (storage : ρ)
  | slot (storage : ρ) (index : UInt32)
  | trySlot (storage : ρ) (index : UInt32)
  | setSlot (storage : ρ) (index : UInt32) (content : Slot ρ)
  | slotValue (storage : ρ) (index : UInt32)
  | setSlotValue (storage : ρ) (index : UInt32) (value : Value ρ)
  | slotGetter (storage : ρ) (index : UInt32)
  | slotSetter (storage : ρ) (index : UInt32)
  | slotVarRef (storage : ρ) (index : UInt32)
  | setSlotGetter (storage : ρ) (index : UInt32) (getter : ρ)
  | setSlotSetter (storage : ρ) (index : UInt32) (setter : ρ)
  | setSlotVarRef (storage : ρ) (index : UInt32) (target : ρ)
  | growProperties (storage : ρ) (capacity : UInt32)
  | elementCapacity (object : ρ)
  | element (object : ρ) (index : UInt32)
  | tryElement (object : ρ) (index : UInt32)
  | setElement (object : ρ) (index : UInt32) (value : Value ρ)
  | pushElement (object : ρ) (value : Value ρ)
  | relocate (target : ρ)
  | pin (target : ρ)
  | unpin (target : ρ)
  | reset
  | teardown
  | addRoot (target : ρ)
  | getRoot (id : RootId)
  | setRoot (id : RootId) (target : ρ)
  | removeRoot (id : RootId)
  | roots
  | findShape (proto : ρ)
  | internShape (proto : ρ)
  | hashShape (shape : ρ)
  | unhashShape (shape : ρ)
  | chainContains (start target : ρ)

/-- What an operation answers when it is not refused, records being named by `ρ`. -/
inductive Answer (ρ : Type)
  /-- Nothing but that it was done. -/
  | done
  | handle (handle : ρ)
  | handle? (handle : Option ρ)
  | flag (flag : Bool)
  | number (number : Nat)
  | kind (kind : Option RecordKind)
  | scalar (scalar : Scalar) (value : scalar.Carrier ρ)
  | bytes (bytes : Option (List UInt8))
  /-- The length of the record that was overwritten, if there was one. -/
  | overwritten (len : Option Nat)
  | slot (slot : Slot ρ)
  | value (value : Value ρ)
  | root (id : RootId)
  | roots (roots : List (RootId × ρ))
  | usage (usage : ArenaUsage)
  | config (config : Config)
  | stats (stats : HeapStats)

namespace Operation

/-- The same operation with its records named otherwise. -/
def map {ρ ρ' : Type} (f : ρ → ρ') : Operation ρ → Operation ρ'
  | allocObject shape classId => allocObject (f shape) classId
  | allocShape proto propSize => allocShape (f proto) propSize
  | allocProperties capacity => allocProperties capacity
  | allocElements capacity => allocElements capacity
  | reserve size => reserve size
  | arenaUsage => arenaUsage
  | config => config
  | stats => stats
  | kind target => kind (f target)
  | isLive target => isLive (f target)
  | isPinned target => isPinned (f target)
  | invalidate target => invalidate (f target)
  | get target field => get (f target) field
  | tryGet target field => tryGet (f target) field
  | @set _ _ scalar target field value => set (f target) field (scalar.map f value)
  | bytes target => bytes (f target)
  | overwrite target start source => overwrite (f target) start source
  | prototype object => prototype (f object)
  | slotCapacity storage => slotCapacity (f storage)
  | slot storage index => slot (f storage) index
  | trySlot storage index => trySlot (f storage) index
  | setSlot storage index content => setSlot (f storage) index (content.map f)
  | slotValue storage index => slotValue (f storage) index
  | setSlotValue storage index value => setSlotValue (f storage) index (value.map f)
  | slotGetter storage index => slotGetter (f storage) index
  | slotSetter storage index => slotSetter (f storage) index
  | slotVarRef storage index => slotVarRef (f storage) index
  | setSlotGetter storage index getter => setSlotGetter (f storage) index (f getter)
  | setSlotSetter storage index setter => setSlotSetter (f storage) index (f setter)
  | setSlotVarRef storage index target => setSlotVarRef (f storage) index (f target)
  | growProperties storage capacity => growProperties (f storage) capacity
  | elementCapacity object => elementCapacity (f object)
  | element object index => element (f object) index
  | tryElement object index => tryElement (f object) index
  | setElement object index value => setElement (f object) index (value.map f)
  | pushElement object value => pushElement (f object) (value.map f)
  | relocate target => relocate (f target)
  | pin target => pin (f target)
  | unpin target => unpin (f target)
  | reset => reset
  | teardown => teardown
  | addRoot target => addRoot (f target)
  | getRoot id => getRoot id
  | setRoot id target => setRoot id (f target)
  | removeRoot id => removeRoot id
  | roots => roots
  | findShape proto => findShape (f proto)
  | internShape proto => internShape (f proto)
  | hashShape shape => hashShape (f shape)
  | unhashShape shape => unhashShape (f shape)
  | chainContains start target => chainContains (f start) (f target)

/-- An action that answers nothing but that it was done. -/
def doing (action : HeapAction Unit) : HeapAction (Answer Handle) := do
  action
  return .done

/-- Looks something up in the heap. -/
def looking {α : Type} (report : Heap → Report Stop α) (answer : α → Answer Handle) :
    HeapAction (Answer Handle) := do
  return answer (← Action.look report)

/-- A fact about the heap that is always there. -/
def telling (fact : Heap → Answer Handle) : HeapAction (Answer Handle) :=
  looking (fun heap => pure (fact heap)) id

/-- What an operation does and answers. -/
def perform : Operation Handle → HeapAction (Answer Handle)
  | allocObject shape classId => return .handle (← Heap.allocObject shape classId)
  | allocShape proto propSize => return .handle (← Heap.allocShape proto propSize)
  | allocProperties capacity => return .handle (← Heap.allocProperties capacity)
  | allocElements capacity => return .handle (← Heap.allocElements capacity)
  | reserve size =>
    return .number (← Heap.onArena (fun _ e => e) (Arena.allocate size)).offset
  | arenaUsage => telling fun heap => .usage heap.arena.usage
  | config => telling fun heap => .config heap.config
  | stats => telling fun heap => .stats heap.stats
  | kind target => telling fun heap => .kind (heap.kind? target)
  | isLive target => telling fun heap => .flag (heap.isLive target)
  | isPinned target => telling fun heap => .flag (heap.isPinned target)
  | invalidate target => return .flag (← Heap.invalidate target)
  | @get _ _ scalar target field => looking (·.get target field) (.scalar scalar)
  | @tryGet _ _ scalar target field => looking (·.tryGet target field) (.scalar scalar)
  | set target field value => doing (Heap.set target field value)
  | bytes target => telling fun heap => .bytes (heap.bytes? target)
  | overwrite target start source => return .overwritten (← Heap.overwrite target start source)
  | prototype object => looking (·.prototype object) .handle
  | slotCapacity storage => looking (·.slotCapacity storage) fun n => .number n.toNat
  | slot storage index => looking (·.slot storage index) .slot
  | trySlot storage index => looking (·.trySlot storage index) .slot
  | setSlot storage index content => doing (Heap.setSlot storage index content)
  | slotValue storage index => looking (·.slotValue storage index) .value
  | setSlotValue storage index value => doing (Heap.setSlotValue storage index value)
  | slotGetter storage index => looking (·.slotGetter storage index) .handle
  | slotSetter storage index => looking (·.slotSetter storage index) .handle
  | slotVarRef storage index => looking (·.slotVarRef storage index) .handle
  | setSlotGetter storage index getter => doing (Heap.setSlotGetter storage index getter)
  | setSlotSetter storage index setter => doing (Heap.setSlotSetter storage index setter)
  | setSlotVarRef storage index target => doing (Heap.setSlotVarRef storage index target)
  | growProperties storage capacity => doing (Heap.growProperties storage capacity)
  | elementCapacity object => looking (·.elementCapacity object) fun n => .number n.toNat
  | element object index => looking (·.element object index) .value
  | tryElement object index => looking (·.tryElement object index) .value
  | setElement object index value => doing (Heap.setElement object index value)
  | pushElement object value => return .number (← Heap.pushElement object value).toNat
  | relocate target => doing (Heap.relocate target)
  | pin target => doing (Heap.pin target)
  | unpin target => doing (Heap.unpin target)
  | reset => doing Heap.reset
  | teardown => doing Heap.teardown
  | addRoot target => return .root (← Heap.addRoot target)
  | getRoot id => telling fun heap => .handle? (heap.getRoot id)
  | setRoot id target => doing (Heap.setRoot id target)
  | removeRoot id => return .flag (← Heap.removeRoot id)
  | roots => telling fun heap => .roots heap.roots.toList
  | findShape proto => looking (·.findShape proto) .handle?
  | internShape proto => return .handle (← Heap.internShape proto)
  | hashShape shape => doing (Heap.hashShape shape)
  | unhashShape shape => return .flag (← Heap.unhashShape shape)
  | chainContains start target => return .flag (← Heap.chainContains start target)

end Operation

/-- The heap after a list of operations. A refused operation is followed by the next one. -/
def Heap.run (heap : Heap) (operations : List (Operation Handle)) : Heap :=
  operations.foldl (fun heap operation => (operation.perform heap).state) heap

end HandleHeap
