import HandleHeap.Proofs.Pairing.Names
import HandleHeap.Proofs.Pairing.Rules

/-!
# Operations on paired heaps

Each operation is made of a few accesses and changes. Where a pairing respects those (`Lawful`), it
respects the operations: run on related heaps they end alike. The operations on shape buckets are
left out, for pairings of heaps whose buckets differ.
-/

namespace HandleHeap

open HandleHeap.Action Heap

namespace Pairing

variable {M : Pairing}

/-- A pairing respects the accesses and changes that operations are made of. -/
structure Lawful (M : Pairing) : Prop where
  null : M.rename .null = .null
  isNull : ∀ handle, (M.rename handle).isNull = handle.isNull
  accounted : ∀ a b, M.related a b → a.handles.Accounted ∧ b.handles.Accounted
  objects : ∀ {scalar : Scalar} {field : Field .object scalar},
    (⟨_, _, field⟩ : SomeField) ∈ Field.catalogue → M.readable field ∧ M.writable field
  proto : M.readable ShapeField.proto
  propSize : M.readable ShapeField.propSize
  isLive : ∀ handle, M.Looks Eq (fun heap => pure (heap.isLive (M.rename handle)))
    (fun heap => pure (heap.isLive handle))
  kind : ∀ handle, M.Looks Eq (fun heap => pure (heap.kind? (M.rename handle)))
    (fun heap => pure (heap.kind? handle))
  isPinned : ∀ handle, M.Looks Eq (fun heap => pure (heap.isPinned (M.rename handle)))
    (fun heap => pure (heap.isPinned handle))
  locate : ∀ handle kind, M.Looks (fun _ _ => True) (·.locate (M.rename handle) kind)
    (·.locate handle kind)
  tryGet : ∀ {layout : Layout} {scalar : Scalar} {field : Field layout scalar},
    M.readable field → ∀ handle, M.Looks (fun u v => u = scalar.map M.rename v)
      (·.tryGet (M.rename handle) field) (·.tryGet handle field)
  set : ∀ {layout : Layout} {scalar : Scalar} {field : Field layout scalar},
    M.writable field → ∀ handle value, M.Parallel Eq
      (Heap.set (M.rename handle) field (scalar.map M.rename value)) (Heap.set handle field value)
  capacity : ∀ handle kind stride, M.Looks Eq
    (fun heap => Report.withDefault (do
      let block ← heap.record (M.rename handle) kind
      return UInt32.ofNat (block.len / stride)) 0)
    (fun heap => Report.withDefault (do
      let block ← heap.record handle kind
      return UInt32.ofNat (block.len / stride)) 0)
  trySlot : ∀ storage index, M.Looks (fun u v => u = v.map M.rename)
    (·.trySlot (M.rename storage) index) (·.trySlot storage index)
  setSlot : ∀ storage index slot, M.Parallel Eq
    (Heap.setSlot (M.rename storage) index (slot.map M.rename)) (Heap.setSlot storage index slot)
  cell : ∀ values index, M.Looks (fun u v => u = v.map M.rename)
    (fun heap => do
      let block ← heap.record (M.rename values) .elementArray
      let start ← Report.ofExcept (cell block.len index Value.size)
      let bytes ← heap.slice block start Value.size
      return Value.decode bytes)
    (fun heap => do
      let block ← heap.record values .elementArray
      let start ← Report.ofExcept (cell block.len index Value.size)
      let bytes ← heap.slice block start Value.size
      return Value.decode bytes)
  setCell : ∀ values index value, M.Parallel Eq
    (Heap.setCell (M.rename values) index (value.map M.rename)) (Heap.setCell values index value)
  request : ∀ size, M.Parallel (fun u v => M.lockstep → u.offset = v.offset)
    (onArena (fun _ e => e) (Arena.allocate size)) (onArena (fun _ e => e) (Arena.allocate size))
  allocRecord : ∀ {kind : RecordKind} {size : Nat}, kind ≠ .shape →
    (0 < size → kind.Allows size) → M.Parallel (fun u v => u = M.rename v ∧ M.spare v)
      (Heap.allocRecord kind size) (Heap.allocRecord kind size)
  allocShape : ∀ proto propSize, M.Parallel (fun u v => u = M.rename v)
    (Heap.allocShape (M.rename proto) propSize) (Heap.allocShape proto propSize)
  growRecord : ∀ {kind : RecordKind} {size : Nat}, kind = .propertyArray ∨ kind = .elementArray →
    kind.Allows size → ∀ handle, M.Parallel Eq
      (Heap.growRecord (M.rename handle) kind size) (Heap.growRecord handle kind size)
  relocate : ∀ handle, M.Parallel Eq (Heap.relocate (M.rename handle)) (Heap.relocate handle)
  setPinned : ∀ handle pinned, M.Parallel Eq (Heap.setPinned (M.rename handle) pinned)
    (Heap.setPinned handle pinned)
  ends : ∀ {handle : Handle}, M.spare handle → ∀ a b, M.related a b →
    M.related (onTable (HandleTable.invalidate (M.rename handle)) a).state
      (onTable (HandleTable.invalidate handle) b).state
  getRoot : ∀ id, M.Looks (fun u v => u = v.map M.rename) (fun heap => pure (heap.getRoot id))
    (fun heap => pure (heap.getRoot id))
  roots : M.Looks (fun u v => u = v.map (Prod.map id M.rename)) (fun heap => pure heap.roots.toList)
    (fun heap => pure heap.roots.toList)
  rootAdded : ∀ handle, M.Parallel Eq (onRoots (RootSet.add (M.rename handle)))
    (onRoots (RootSet.add handle))
  rootSet : ∀ id handle, M.Parallel Eq (onRoots (RootSet.set id (M.rename handle)))
    (onRoots (RootSet.set id handle))
  rootRemoved : ∀ id, M.Parallel Eq (onRoots (RootSet.remove id)) (onRoots (RootSet.remove id))

namespace Lawful

variable (laws : M.Lawful)
include laws

/-! ## 1. Fields -/

theorem map_sentinel (scalar : Scalar) : scalar.sentinel = scalar.map M.rename scalar.sentinel := by
  cases scalar with
  | handle => exact laws.null.symm
  | _ => rfl

theorem get {layout : Layout} {scalar : Scalar} {field : Field layout scalar}
    (readable : M.readable field) (handle : Handle) :
    M.Looks (fun u v => u = scalar.map M.rename v) (·.get (M.rename handle) field)
      (·.get handle field) :=
  (laws.tryGet readable handle).withDefault (laws.map_sentinel scalar)

theorem tryGet_object {scalar : Scalar} (field : Field .object scalar) (object : Handle)
    (listed : (⟨_, _, field⟩ : SomeField) ∈ Field.catalogue := by simp [Field.catalogue]) :
    M.Looks (fun u v => u = scalar.map M.rename v) (·.tryGet (M.rename object) field)
      (·.tryGet object field) :=
  laws.tryGet (laws.objects listed).1 object

theorem get_object {scalar : Scalar} (field : Field .object scalar) (object : Handle)
    (listed : (⟨_, _, field⟩ : SomeField) ∈ Field.catalogue := by simp [Field.catalogue]) :
    M.Looks (fun u v => u = scalar.map M.rename v) (·.get (M.rename object) field)
      (·.get object field) :=
  laws.get (laws.objects listed).1 object

theorem set_object {scalar : Scalar} (field : Field .object scalar) (object : Handle)
    (value : scalar.Carrier Handle)
    (listed : (⟨_, _, field⟩ : SomeField) ∈ Field.catalogue := by simp [Field.catalogue]) :
    M.Parallel Eq (Heap.set (M.rename object) field (scalar.map M.rename value))
      (Heap.set object field value) :=
  laws.set (laws.objects listed).2 object value

theorem prototype (object : Handle) :
    M.Looks (fun u v => u = M.rename v) (·.prototype (M.rename object)) (·.prototype object) := by
  refine (laws.get_object ObjectField.shape object).bind fun u v same => ?_
  obtain rfl : u = M.rename v := same
  rw [laws.isNull]
  split
  · exact .pure laws.null.symm
  · exact laws.get laws.proto v

/-! ## 2. Slots -/

theorem slotCapacity (storage : Handle) :
    M.Looks Eq (·.slotCapacity (M.rename storage)) (·.slotCapacity storage) :=
  laws.capacity storage .propertyArray Slot.size

theorem slot (storage : Handle) (index : UInt32) :
    M.Looks (fun u v => u = v.map M.rename) (·.slot (M.rename storage) index)
      (·.slot storage index) :=
  (laws.trySlot storage index).withDefault rfl

theorem slotValue (storage : Handle) (index : UInt32) :
    M.Looks (fun u v => u = v.map M.rename) (·.slotValue (M.rename storage) index)
      (·.slotValue storage index) := by
  refine (laws.slot storage index).bind fun u v same => .pure ?_
  cases same
  cases v <;> rfl

theorem getter_map (slot : Slot Handle) : (slot.map M.rename).getter = M.rename slot.getter := by
  cases slot with
  | accessor getter setter => rfl
  | _ => exact laws.null.symm

theorem setter_map (slot : Slot Handle) : (slot.map M.rename).setter = M.rename slot.setter := by
  cases slot with
  | accessor getter setter => rfl
  | _ => exact laws.null.symm

theorem varTarget_map (slot : Slot Handle) :
    (slot.map M.rename).varTarget = M.rename slot.varTarget := by
  cases slot with
  | varRef target => rfl
  | _ => exact laws.null.symm

/-- A handle read out of a slot. -/
theorem slotHandle {part : Slot Handle → Handle}
    (natural : ∀ slot : Slot Handle, part (slot.map M.rename) = M.rename (part slot))
    (storage : Handle) (index : UInt32) :
    M.Looks (fun u v => u = M.rename v)
      (fun heap => do return part (← heap.slot (M.rename storage) index))
      (fun heap => do return part (← heap.slot storage index)) := by
  refine (laws.slot storage index).bind fun u v same => .pure ?_
  rw [same, natural]

theorem setSlotGetter (storage : Handle) (index : UInt32) (getter : Handle) :
    M.Parallel Eq (Heap.setSlotGetter (M.rename storage) index (M.rename getter))
      (Heap.setSlotGetter storage index getter) := by
  refine .bind (.look (laws.trySlot storage index)) fun u v same => ?_
  rw [same, laws.setter_map]
  exact laws.setSlot storage index (.accessor getter v.setter)

theorem setSlotSetter (storage : Handle) (index : UInt32) (setter : Handle) :
    M.Parallel Eq (Heap.setSlotSetter (M.rename storage) index (M.rename setter))
      (Heap.setSlotSetter storage index setter) := by
  refine .bind (.look (laws.trySlot storage index)) fun u v same => ?_
  rw [same, laws.getter_map]
  exact laws.setSlot storage index (.accessor v.getter setter)

theorem growProperties (storage : Handle) (capacity : UInt32) :
    M.Parallel Eq (Heap.growProperties (M.rename storage) capacity)
      (Heap.growProperties storage capacity) := by
  refine .bind (.look (laws.slotCapacity storage)) fun u v same => ?_
  cases same
  split
  · exact .bind (.look (laws.locate storage .propertyArray)) fun _ _ _ => .pure rfl
  · next longer =>
    have some : 0 < capacity.toNat * Slot.size := by
      have := UInt32.lt_iff_toNat_lt.mp (UInt32.not_le.mp longer)
      unfold Slot.size
      omega
    exact laws.growRecord (.inl rfl) (allows_slots some) storage

/-! ## 3. Elements -/

theorem elementCapacity (object : Handle) :
    M.Looks Eq (·.elementCapacity (M.rename object)) (·.elementCapacity object) := by
  refine (laws.get_object ObjectField.arrayValues object).bind
    fun u v same => ?_
  obtain rfl : u = M.rename v := same
  rw [laws.isNull]
  split
  · exact .pure rfl
  · exact laws.capacity v .elementArray Value.size

theorem elementStorage (object : Handle) (index : UInt32) :
    M.Looks (fun u v => u = M.rename v) (·.elementStorage (M.rename object) index)
      (·.elementStorage object index) := by
  refine (laws.tryGet_object ObjectField.arrayCount object).bind
    fun u v same => ?_
  obtain rfl : u = v := same
  split
  · exact fun _ _ _ _ _ => .error _
  · exact laws.tryGet_object ObjectField.arrayValues object

theorem tryElement (object : Handle) (index : UInt32) :
    M.Looks (fun u v => u = v.map M.rename) (·.tryElement (M.rename object) index)
      (·.tryElement object index) := by
  refine (laws.elementStorage object index).bind fun u v same => ?_
  cases same
  exact laws.cell v index

theorem element (object : Handle) (index : UInt32) :
    M.Looks (fun u v => u = v.map M.rename) (·.element (M.rename object) index)
      (·.element object index) :=
  (laws.tryElement object index).withDefault rfl

theorem setElement (object : Handle) (index : UInt32) (value : Value Handle) :
    M.Parallel Eq (Heap.setElement (M.rename object) index (value.map M.rename))
      (Heap.setElement object index value) := by
  refine .bind (.look (laws.elementStorage object index)) fun u v same => ?_
  cases same
  exact laws.setCell v index value

theorem allocElements (capacity : UInt32) :
    M.Parallel (fun u v => u = M.rename v ∧ M.spare v) (Heap.allocElements capacity)
      (Heap.allocElements capacity) :=
  laws.allocRecord (by decide) fun some =>
    ⟨capacity.toNat, Nat.pos_of_mul_pos_right some, capacity.toNat_lt, rfl⟩

theorem attachElements (object : Handle) :
    M.Parallel (fun u v => u = M.rename v) (Heap.attachElements (M.rename object))
      (Heap.attachElements object) := by
  refine .bind (laws.allocElements _) fun u v same => ?_
  cases same.1
  exact .bind (laws.set_object ObjectField.arrayValues object v) fun _ _ _ =>
    .bind (laws.set_object ObjectField.fastArray object true) fun _ _ _ => .pure rfl

theorem fillCell (object array : Handle) (count : UInt32) (value : Value Handle) :
    M.Parallel Eq (Heap.fillCell (M.rename object) (M.rename array) count (value.map M.rename))
      (Heap.fillCell object array count value) := by
  refine .bind (laws.setCell array count value) fun _ _ _ => ?_
  split
  · exact .bind (laws.set_object ObjectField.arrayCount object (count + 1)) fun _ _ _ => .pure rfl
  · exact .fault _

theorem storeElement (object array : Handle) (count : UInt32) (value : Value Handle) :
    M.Parallel Eq (Heap.storeElement (M.rename object) (M.rename array) count (value.map M.rename))
      (Heap.storeElement object array count value) := by
  refine .bind (.look (laws.elementCapacity object)) fun capacity capacity' same => ?_
  cases same
  have filled := laws.fillCell object array count value
  split
  · exact .bind (laws.growRecord (.inr rfl) (allows_grownCapacity capacity) array)
      fun _ _ _ => filled
  · exact filled

theorem pushElement (object : Handle) (value : Value Handle) :
    M.Parallel Eq (Heap.pushElement (M.rename object) (value.map M.rename))
      (Heap.pushElement object value) := by
  rw [pushElement_eq, pushElement_eq]
  refine .bind (.look (laws.tryGet_object ObjectField.arrayCount object))
    fun count count' same => ?_
  obtain rfl : count = count' := same
  refine .bind (.look (laws.tryGet_object ObjectField.arrayValues object))
    fun attached attached' same => ?_
  obtain rfl : attached = M.rename attached' := same
  rw [laws.isNull]
  split
  · refine .bind (laws.attachElements object) fun u v same => ?_
    cases same
    exact laws.storeElement object v count value
  · exact .pure_bind (laws.storeElement object attached' count value)

/-! ## 4. Records and roots -/

theorem allocProperties (capacity : UInt32) :
    M.Parallel (fun u v => u = M.rename v ∧ M.spare v) (Heap.allocProperties capacity)
      (Heap.allocProperties capacity) :=
  laws.allocRecord (by decide) allows_slots

theorem fillObject (shape object props : Handle) (classId : UInt16) :
    M.Parallel (fun u v => u = M.rename v)
      (Heap.fillObject (M.rename shape) (M.rename object) (M.rename props) classId)
      (Heap.fillObject shape object props classId) :=
  .bind (laws.set_object ObjectField.shape object shape) fun _ _ _ =>
    .bind (laws.set_object ObjectField.props object props) fun _ _ _ =>
      .bind (laws.set_object ObjectField.classId object classId) fun _ _ _ =>
        .bind (laws.set_object ObjectField.extensible object true) fun _ _ _ => .pure rfl

theorem makeObject (shape : Handle) (classId : UInt16) (slots : UInt32) :
    M.Parallel (fun u v => u = M.rename v) (Heap.makeObject (M.rename shape) classId slots)
      (Heap.makeObject shape classId slots) := by
  refine .bind (laws.allocRecord (by decide) fun _ => rfl) fun object object' same => ?_
  obtain ⟨rfl, spare⟩ := same
  split
  · refine (laws.allocProperties slots).attempt_bind (fun u v same => ?_) ?_ laws.accounted
      (keeps_allocRecord ..) (keeps_allocRecord ..) ?_ ?_
    · cases same.1
      exact laws.fillObject shape object' v classId
    · intro e a b related
      have ended := laws.ends spare a b related
      rwa [state_bind_refuse, state_bind_refuse]
    · intro e heap accounted
      obtain ⟨live, answered⟩ := exists_answer_end accounted (M.rename object')
      exact answer_bind_refuse answered e
    · intro e heap accounted
      obtain ⟨live, answered⟩ := exists_answer_end accounted object'
      exact answer_bind_refuse answered e
  · have null := laws.fillObject shape object' .null classId
    rwa [laws.null] at null

theorem allocObject (shape : Handle) (classId : UInt16) :
    M.Parallel (fun u v => u = M.rename v) (Heap.allocObject (M.rename shape) classId)
      (Heap.allocObject shape classId) := by
  rw [allocObject_eq, allocObject_eq, laws.isNull]
  split
  · exact .pure_bind (laws.makeObject shape classId 0)
  · refine .bind (.look (laws.tryGet laws.propSize shape)) fun u v same => ?_
    obtain rfl : u = v := same
    exact laws.makeObject shape classId u

theorem addRoot (handle : Handle) :
    M.Parallel Eq (Heap.addRoot (M.rename handle)) (Heap.addRoot handle) := by
  refine .bind (.look (laws.isLive handle)) fun u v same => ?_
  cases same
  split
  · refine .bind (laws.rootAdded handle) fun id id' same => ?_
    cases same
    exact .bind (.emit _ _) fun _ _ _ => .pure rfl
  · exact .refuse _

theorem setRoot (id : RootId) (handle : Handle) :
    M.Parallel Eq (Heap.setRoot id (M.rename handle)) (Heap.setRoot id handle) := by
  refine .bind (.look (laws.isLive handle)) fun u v same => ?_
  cases same
  split
  · exact laws.rootSet id handle
  · exact .refuse _

end Lawful

end Pairing

/-! ## 5. Prototype chains -/

/-- How a walk ended, with its objects named otherwise. -/
def ChainWalk.map {β : Type} (f : Handle → Handle) : ChainWalk β → ChainWalk β
  | broke value place hops => broke value (f place) hops
  | ended last visited => ended (f last) visited
  | noShape place hops => noShape (f place) hops
  | depthExceeded last visited => depthExceeded (f last) visited

/-- How a search ended, with its objects named otherwise. -/
def ChainSearch.map (f : Handle → Handle) : ChainSearch → ChainSearch
  | found object hops => found (f object) hops
  | notFound last visited => notFound (f last) visited
  | depthExceeded last visited => depthExceeded (f last) visited

theorem ChainSearch.ofWalk_map {β : Type} (f : Handle → Handle) (ended : ChainWalk β) :
    ofWalk (ended.map f) = (ofWalk ended).map f := by
  cases ended <;> rfl

theorem ChainSearch.result_map (f : Handle → Handle) (ended : ChainSearch) :
    (ended.map f).result = ended.result.map (Option.map f) := by
  cases ended <;> rfl

namespace Pairing.Lawful

variable {M : Pairing} (laws : M.Lawful) {σ β : Type}
include laws

/-- A walk is alike if its body is. -/
theorem walkFrom {body body' : σ → Handle → HeapAction (σ × Option β)}
    (alike : ∀ own object, M.Parallel Eq (body own (M.rename object)) (body' own object))
    (start : Handle) (remaining hops : Nat) (last current : Handle) (own : σ) :
    M.Parallel (fun u v => u.2 = v.2.map M.rename)
      (Heap.walkFrom (M.rename start) body remaining hops (M.rename last) (M.rename current) own)
      (Heap.walkFrom start body' remaining hops last current own) := by
  induction remaining generalizing hops last current own with
  | zero =>
    unfold Heap.walkFrom
    rw [laws.isNull]
    split
    · exact .pure rfl
    · exact .bind (.emit _ _) fun _ _ _ => .pure rfl
  | succ remaining ih =>
    unfold Heap.walkFrom
    rw [laws.isNull]
    split
    · exact .pure rfl
    · refine .bind (alike own current) fun u v same => ?_
      cases same
      obtain ⟨own, found⟩ := u
      cases found with
      | some value => exact .pure rfl
      | none =>
        refine .bind (.look (laws.prototype current)) fun next next' same => ?_
        cases same
        exact ih (hops + 1) current next' own

theorem walk {body body' : σ → Handle → HeapAction (σ × Option β)}
    (alike : ∀ own object, M.Parallel Eq (body own (M.rename object)) (body' own object))
    (start : Handle) (own : σ) :
    M.Parallel (fun u v => u.2 = v.2.map M.rename) (Heap.walk (M.rename start) own body)
      (Heap.walk start own body') := by
  have walked := laws.walkFrom alike start maxChainDepth 0 .null start own
  rwa [laws.null] at walked

theorem search {test test' : σ → Heap → Handle → Report Stop (σ × Bool)}
    (alike : ∀ own object,
      M.Looks Eq (fun heap => test own heap (M.rename object)) (fun heap => test' own heap object))
    (start : Handle) (own : σ) :
    M.Parallel (fun u v => u.2 = v.2.map M.rename) (Heap.search (M.rename start) own test)
      (Heap.search start own test') := by
  refine .bind (laws.walk (fun own object => ?_) start own) fun u v same => .pure ?_
  · refine .bind (.look (alike own object)) fun u v same => .pure ?_
    rw [same]
  · rw [same, ChainSearch.ofWalk_map]

theorem chainContains (injective : Function.Injective M.rename) (start target : Handle) :
    M.Parallel Eq (Heap.chainContains (M.rename start) (M.rename target))
      (Heap.chainContains start target) := by
  refine .bind (laws.search (fun _ object => .pure ?_) start ()) fun u v same => ?_
  · simp only [injective.eq_iff]
  · simp only [same, ChainSearch.result_map]
    cases v.2.result with
    | ok found =>
      refine .pure ?_
      cases found <;> rfl
    | error e => exact .refuse e

end Pairing.Lawful

/-! ## 6. All operations of a kind -/

/-- The same answer with its records named otherwise. -/
def Answer.map {ρ ρ' : Type} (f : ρ → ρ') : Answer ρ → Answer ρ'
  | done => done
  | handle h => handle (f h)
  | handle? h => handle? (h.map f)
  | flag b => flag b
  | number n => number n
  | kind k => kind k
  | scalar s v => scalar s (s.map f v)
  | bytes b => bytes b
  | overwritten len => overwritten len
  | slot s => slot (s.map f)
  | value v => value (v.map f)
  | root id => root id
  | roots list => roots (list.map (Prod.map id f))
  | usage u => usage u
  | config c => config c
  | stats s => stats s

namespace Pairing

variable {M : Pairing}

/-- The operations that every lawful pairing respects: those that leave the shape buckets and the
accounts of the heap alone and reach into records by fields, slots and elements only. -/
def Plain (M : Pairing) : Operation Handle → Prop
  | .get _ field | .tryGet _ field => M.readable field
  | .set _ field _ => M.writable field
  | .reserve .. | .arenaUsage | .config | .stats | .bytes .. | .overwrite .. | .invalidate ..
  | .reset | .teardown | .findShape .. | .internShape .. | .hashShape .. | .unhashShape .. => False
  | _ => True

theorem Parallel.doing {f g : HeapAction Unit} (h : M.Parallel Eq f g) :
    M.Parallel (fun u v => u = v.map M.rename) (Operation.doing f) (Operation.doing g) :=
  h.bind fun _ _ _ => .pure rfl

theorem Parallel.answering {α β : Type} {same : α → β → Prop} {f : HeapAction α}
    {g : HeapAction β} {tell : α → Answer Handle} {tell' : β → Answer Handle}
    (h : M.Parallel same f g) (alike : ∀ {u v}, same u v → tell u = (tell' v).map M.rename) :
    M.Parallel (fun u v => u = v.map M.rename) (f >>= fun u => Pure.pure (tell u))
      (g >>= fun v => Pure.pure (tell' v)) :=
  h.bind fun _ _ both => .pure (alike both)

/-- What is answered of the one is what is answered of the other, with the handles renamed. -/
theorem Parallel.telling {α β : Type} {translate : β → α} {f : HeapAction α} {g : HeapAction β}
    {tell : α → Answer Handle} {tell' : β → Answer Handle}
    (h : M.Parallel (fun u v => u = translate v) f g)
    (alike : ∀ v, tell (translate v) = (tell' v).map M.rename) :
    M.Parallel (fun u v => u = v.map M.rename) (f >>= fun u => Pure.pure (tell u))
      (g >>= fun v => Pure.pure (tell' v)) :=
  h.answering fun {_ v} both => both ▸ alike v

theorem Looks.telling {α β : Type} {translate : β → α} {r : Heap → Report Stop α}
    {r' : Heap → Report Stop β} {tell : α → Answer Handle} {tell' : β → Answer Handle}
    (h : M.Looks (fun u v => u = translate v) r r')
    (alike : ∀ v, tell (translate v) = (tell' v).map M.rename) :
    M.Parallel (fun u v => u = v.map M.rename) (Operation.looking r tell)
      (Operation.looking r' tell') :=
  (Parallel.look h).telling alike

theorem Lawful.perform (laws : M.Lawful) (injective : Function.Injective M.rename)
    {operation : Operation Handle} (plain : M.Plain operation) :
    M.Parallel (fun u v => u = v.map M.rename) (operation.map M.rename).perform
      operation.perform := by
  cases operation with
  | allocObject => exact (laws.allocObject _ _).telling fun _ => rfl
  | allocShape => exact (laws.allocShape _ _).telling fun _ => rfl
  | allocProperties =>
    exact (laws.allocProperties _).answering fun both => congrArg Answer.handle both.1
  | allocElements =>
    exact (laws.allocElements _).answering fun both => congrArg Answer.handle both.1
  | kind => exact (laws.kind _).telling fun _ => rfl
  | isLive => exact (laws.isLive _).telling fun _ => rfl
  | isPinned => exact (laws.isPinned _).telling fun _ => rfl
  | get => exact (laws.get plain _).telling fun _ => rfl
  | tryGet => exact (laws.tryGet plain _).telling fun _ => rfl
  | set => exact (laws.set plain _ _).doing
  | prototype => exact (laws.prototype _).telling fun _ => rfl
  | slotCapacity => exact (laws.slotCapacity _).telling fun _ => rfl
  | slot => exact (laws.slot _ _).telling fun _ => rfl
  | trySlot => exact (laws.trySlot _ _).telling fun _ => rfl
  | setSlot => exact (laws.setSlot _ _ _).doing
  | slotValue => exact (laws.slotValue _ _).telling fun _ => rfl
  | setSlotValue storage index value => exact (laws.setSlot storage index (.value value)).doing
  | slotGetter => exact (laws.slotHandle laws.getter_map _ _).telling fun _ => rfl
  | slotSetter => exact (laws.slotHandle laws.setter_map _ _).telling fun _ => rfl
  | slotVarRef => exact (laws.slotHandle laws.varTarget_map _ _).telling fun _ => rfl
  | setSlotGetter => exact (laws.setSlotGetter _ _ _).doing
  | setSlotSetter => exact (laws.setSlotSetter _ _ _).doing
  | setSlotVarRef storage index target => exact (laws.setSlot storage index (.varRef target)).doing
  | growProperties => exact (laws.growProperties _ _).doing
  | elementCapacity => exact (laws.elementCapacity _).telling fun _ => rfl
  | element => exact (laws.element _ _).telling fun _ => rfl
  | tryElement => exact (laws.tryElement _ _).telling fun _ => rfl
  | setElement => exact (laws.setElement _ _ _).doing
  | pushElement => exact (laws.pushElement _ _).telling fun _ => rfl
  | relocate => exact (laws.relocate _).doing
  | pin | unpin => exact (laws.setPinned _ _).doing
  | addRoot => exact (laws.addRoot _).telling fun _ => rfl
  | getRoot => exact (laws.getRoot _).telling fun _ => rfl
  | setRoot => exact (laws.setRoot _ _).doing
  | removeRoot => exact (laws.rootRemoved _).telling fun _ => rfl
  | roots => exact laws.roots.telling fun _ => rfl
  | chainContains => exact (laws.chainContains injective _ _).telling fun _ => rfl
  | _ => exact plain.elim

end Pairing

end HandleHeap
