import HandleHeap.Proofs.Heap.Invariants
import HandleHeap.Proofs.Heap.Requests

/-!
# How the lack of space is told

An operation that is refused because the arena is exhausted tells the size that was asked for, the
offset and the capacity. The offset should be the one at which the request was made, and it is for
every request but one kind: where a record is to grow, it is read after the request has moved it.

* `tells_request`, `tells_reallocate`: a single request, and one for a longer block.
* `Operation.requests`: the requests that an operation makes.
* `exhaustion_told`: what an operation tells that is refused, and when the offset is the right one.
* `growth_told_behind`: a refusal that tells a wrong offset.
-/

namespace HandleHeap

open HandleHeap.Action

/-! ## 1. One request -/

namespace Arena

/-- What an observer is told of one request. -/
theorem exhaustions_allocate (arena : Arena) (size : Nat) :
    exhaustions (allocate size arena).events =
      if 0 < arena.asked size ∧ arena.capacity < arena.used + arena.asked size then
        [(size, arena.used, arena.capacity)]
      else [] := by
  have allocated := allocated arena size
  generalize allocate size arena = out at allocated
  cases allocated with
  | uninitialized _ idle | zeroSize _ _ idle | tooLarge _ _ idle => simp [idle, exhaustions]
  | exhausted pos full => simp [pos, full, exhaustions]
  | given _ fits => simp [Nat.not_lt.mpr fits, exhaustions]

theorem allocate_eq_exhausted {arena : Arena} {asked size offset capacity : Nat}
    (failed : (allocate asked arena).answer = .error (.exhausted size offset capacity)) :
    size = asked ∧ offset = arena.used ∧ capacity = arena.capacity := by
  have allocated := allocated arena asked
  generalize allocate asked arena = out at allocated failed
  cases allocated <;> cases failed <;> exact ⟨rfl, rfl, rfl⟩

theorem not_given_of_error {arena : Arena} {size : Nat} {cause : AllocError}
    (failed : (allocate size arena).answer = .error cause) :
    ¬ ∃ block, (allocate size arena).answer = .ok block :=
  fun ⟨_, given⟩ => nomatch failed.symm.trans given

/-- A request that is turned down was told exactly if it reached the offset. -/
theorem exhaustions_of_error {arena : Arena} {size : Nat} {cause : AllocError}
    (failed : (allocate size arena).answer = .error cause) :
    exhaustions (allocate size arena).events =
      if 0 < arena.asked size then [(size, arena.used, arena.capacity)] else [] := by
  have beyond (pos : 0 < arena.asked size) : arena.capacity < arena.used + arena.asked size := by
    refine Nat.lt_of_not_le fun fits => ?_
    rw [allocate_eq_ok_iff.mpr ⟨pos, fits, rfl⟩] at failed
    cases failed
  rw [exhaustions_allocate]
  by_cases pos : 0 < arena.asked size
  · rw [if_pos ⟨pos, beyond pos⟩, if_pos pos]
  · rw [if_neg fun both => pos both.1, if_neg pos]

/-- A request that is served is not told. -/
theorem exhaustions_of_ok {arena : Arena} {size : Nat} {block : Block}
    (given : (allocate size arena).answer = .ok block) :
    exhaustions (allocate size arena).events = [] := by
  obtain ⟨-, fits, -⟩ := allocate_eq_ok_iff.mp given
  rw [exhaustions_allocate, if_neg fun both => Nat.not_lt.mpr fits both.2]

end Arena

namespace HandleTable

/-- Ending a handle is not refused. -/
theorem invalidate_cases {α : Type} (handle : Handle) (table : HandleTable α) :
    (∃ flag after, invalidate handle table = ⟨.ok flag, after, []⟩) ∨
      ∃ fault after, invalidate handle table = ⟨.error (.fault fault), after, []⟩ := by
  unfold invalidate
  split
  · simp only
    split
    · exact .inr ⟨_, _, rfl⟩
    · exact .inl ⟨_, _, rfl⟩
  · exact .inl ⟨_, _, rfl⟩

end HandleTable

namespace Heap

variable {heap : Heap}

theorem tells_request (heap : Heap) (size : Nat) :
    Tells [⟨size, false⟩] heap (onArena (fun _ e => e) (Arena.allocate size) heap) := by
  cases given : (Arena.allocate size heap.arena).answer with
  | error cause =>
    have told := Arena.exhaustions_of_error given
    rw [onArena_apply (show Arena.allocate size heap.arena = ⟨.error cause, _, _⟩ by rw [← given])]
    refine ⟨nofun, fun same => ⟨[], _, [], rfl, trivial, ?_⟩⟩
    cases same
    obtain ⟨rfl, rfl, rfl⟩ := Arena.allocate_eq_exhausted given
    exact ⟨Arena.not_given_of_error given, rfl, rfl, rfl, told⟩
  | ok block =>
    rw [onArena_apply (show Arena.allocate size heap.arena = ⟨.ok block, _, _⟩ by rw [← given])]
    exact ⟨fun _ => ⟨⟨⟨block, given⟩, trivial⟩, .refl _, Arena.exhaustions_of_ok given⟩, nofun⟩

/-- A longer block for a record is refused with the offset that the request left. -/
theorem tells_reallocate (heap : Heap) (old : Block) (size : Nat) :
    Tells [⟨size, true⟩] heap (onArena (fun arena _ => .exhausted size arena.used arena.capacity)
      (Arena.reallocate (some old) size) heap) := by
  cases given : (Arena.allocate size heap.arena).answer with
  | error cause =>
    rw [onArena_apply (Arena.reallocate_of_error (some old) given)]
    refine ⟨nofun, fun same => ⟨[], _, [], rfl, trivial, ?_⟩⟩
    cases same
    exact ⟨Arena.not_given_of_error given, rfl, heap.arena.capacity_after [⟨size, true⟩], rfl,
      Arena.exhaustions_of_error given⟩
  | ok fresh =>
    rw [onArena_apply (Arena.reallocate_of_ok old given (Arena.holds_of_allocate given).2)]
    have changed := (Arena.onlyIn_clear (Arena.allocate size heap.arena).state fresh).trans
      (Arena.onlyIn_copy _ old fresh size)
    refine ⟨fun _ => ⟨⟨⟨fresh, given⟩, trivial⟩, changed.alike, ?_⟩, nofun⟩
    rw [exhaustions_append, Arena.exhaustions_of_ok given]
    rfl

theorem tells_growRecord (heap : Heap) (handle : Handle) (kind : RecordKind)
    (size : Nat) : Tells [⟨size, true⟩] heap (growRecord handle kind size heap) := by
  refine .look_bind (quiet_locate ..) fun {old} _ => ?_
  refine (tells_reallocate heap old size).bind_silent fun fresh => ?_
  refine .look_bind (fun heap => quiet_placement heap handle) fun placement => ?_
  exact (silent_retarget ..).bind fun _ => silent_emit rfl

theorem tells_allocRecord (heap : Heap) (kind : RecordKind) (size : Nat) :
    Tells [⟨size, false⟩] heap (allocRecord kind size heap) := by
  refine (tells_request heap size).bind_silent fun block => ?_
  refine (silent_changeArena fun arena => Arena.onlyIn_clear arena block).bind fun _ => ?_
  exact (silent_register _).bind fun _ => (silent_emit rfl).bind fun _ => silent_pure _

/-! ## 2. Operations -/

theorem tells_allocShape (heap : Heap) (proto : Handle) (propSize : UInt32) :
    Tells [⟨Layout.shape.size, false⟩] heap (allocShape proto propSize heap) :=
  (tells_allocRecord heap ..).bind_silent fun _ => (silent_set ..).bind fun _ =>
    (silent_set ..).bind fun _ => (silent_set ..).bind fun _ => silent_pure _

/-- An object is ended again if its slots are refused, and the refusal is told as it was. -/
theorem tells_furnishObject (heap : Heap) (shape object : Handle)
    (classId : UInt16) (slots : UInt32) : Tells [⟨slots.toNat * Slot.size, false⟩] heap
      (furnishObject shape object classId slots heap) := by
  have told := tells_allocRecord heap .propertyArray (slots.toNat * Slot.size)
  unfold furnishObject
  rcases run : allocProperties slots heap with ⟨(error | fault) | props, after, events⟩ <;>
    rw [show allocRecord .propertyArray _ heap = _ from run] at told
  · rw [bind_apply_of_ok (attempt_of_refused run)]
    rcases HandleTable.invalidate_cases object after.handles with
      ⟨flag, table, ended⟩ | ⟨fault, table, ended⟩
    · refine told.refused_again ?_ (.inl ?_) <;> simp only [bind_apply_of_ok (onTable_apply ended)]
      · rfl
      · rfl
    · refine told.refused_again ?_ (.inr ⟨fault, ?_⟩) <;>
        simp only [bind_apply_of_error (onTable_apply ended)]
  · rw [bind_apply_of_error (attempt_of_fault run)]
    exact ⟨nofun, nofun⟩
  · rw [bind_apply_of_ok (attempt_of_ok run)]
    have filled := told.andThen ((silent_fillObject shape object props classId).tells after)
    rwa [List.append_nil] at filled

/-- The slots of a shape are asked for after the object. -/
theorem tells_makeObject (heap : Heap) (shape : Handle) (classId : UInt16)
    (slots : UInt32) : Tells (⟨Layout.object.size, false⟩ ::
      if 0 < slots then [⟨slots.toNat * Slot.size, false⟩] else []) heap
        (makeObject shape classId slots heap) := by
  rw [← List.singleton_append]
  refine (tells_allocRecord heap .object Layout.object.size).bind fun {object} _ => ?_
  by_cases some : 0 < slots
  · rw [if_pos some, if_pos some]
    exact tells_furnishObject ..
  · rw [if_neg some, if_neg some]
    exact (silent_fillObject ..).tells _

end Heap

namespace Operation

/-- Whether an operation asks the arena for blocks. -/
def allocates : Operation Handle → Bool
  | allocObject .. | allocShape .. | allocProperties .. | allocElements .. | reserve ..
  | growProperties .. | pushElement .. | relocate .. | internShape .. => true
  | _ => false

/-- The requests that an operation makes, in order, as long as they are served. -/
def requests (heap : Heap) : Operation Handle → List Request
  | allocObject shape _ =>
    let slots := if shape.isNull then 0 else heap.view.field shape ShapeField.propSize
    ⟨Layout.object.size, false⟩ ::
      if 0 < slots then [⟨slots.toNat * Slot.size, false⟩] else []
  | allocShape .. => [⟨Layout.shape.size, false⟩]
  | allocProperties capacity => [⟨capacity.toNat * Slot.size, false⟩]
  | allocElements capacity => [⟨capacity.toNat * Value.size, false⟩]
  | reserve size => [⟨size, false⟩]
  | growProperties storage capacity =>
    if capacity ≤ heap.view.capacity storage .propertyArray Slot.size then []
    else [⟨capacity.toNat * Slot.size, true⟩]
  | pushElement object _ =>
    let bare := (heap.view.elements object).isNull
    let capacity := if bare then Heap.initialElementCapacity else heap.view.elementCapacity object
    (if bare then [⟨Heap.initialElementCapacity.toNat * Value.size, false⟩] else []) ++
      if capacity ≤ heap.view.count object then
        [⟨Heap.grownCapacity capacity * Value.size, true⟩]
      else []
  | relocate target =>
    match heap.handles.resolve target with
    | some ⟨block, _, false⟩ => [⟨block.len, false⟩]
    | _ => []
  | internShape proto =>
    match (heap.findShape proto).answer with
    | .ok none => [⟨Layout.shape.size, false⟩]
    | _ => []
  | _ => []

end Operation

namespace Heap

variable {heap : Heap}

/-- What is read of a field is what the view has there. -/
theorem Sound.field_of_tryGet (sound : heap.Sound) {layout : Layout} {scalar : Scalar}
    {handle : Handle} {field : Field layout scalar} {value : scalar.Carrier Handle}
    (read : (heap.tryGet handle field).answer = .ok value) :
    heap.view.field handle field = value := by
  have get : (heap.get handle field).answer = .ok value := by
    rw [get, Report.withDefault, read]
    exact read
  exact Except.ok.inj ((sound.answer_get handle field).symm.trans get)

theorem Sound.tells_allocObject (sound : heap.Sound) (shape : Handle) (classId : UInt16) :
    Tells ((Operation.allocObject shape classId).requests heap) heap
      (allocObject shape classId heap) := by
  rw [allocObject_eq, Operation.requests]
  by_cases null : shape.isNull = true
  · simp only [null, if_true]
    exact tells_makeObject heap shape classId 0
  · simp only [null, Bool.false_eq_true, if_false]
    refine .look_bind (quiet_tryGet ..) fun {slots} read => ?_
    rw [sound.field_of_tryGet read]
    exact tells_makeObject heap shape classId slots

theorem Sound.tells_growProperties (sound : heap.Sound) (storage : Handle) (capacity : UInt32) :
    Tells ((Operation.growProperties storage capacity).requests heap) heap
      (growProperties storage capacity heap) := by
  refine .look_bind (quiet_slotCapacity ..) fun {current} read => ?_
  cases (sound.answer_capacity storage .propertyArray Slot.size).symm.trans read
  rw [Operation.requests]
  split
  · exact (Silent.look_bind (fun heap => quiet_locate heap storage _) fun _ =>
      silent_pure _).tells heap
  · exact tells_growRecord heap ..

theorem tells_relocate (heap : Heap) (target : Handle) :
    Tells ((Operation.relocate target).requests heap) heap (relocate target heap) := by
  refine .look_bind (quiet_placement ..) fun {placement} read => ?_
  have known := placement_eq_ok read
  obtain ⟨block, kind, pinned⟩ := placement
  cases pinned with
  | true =>
    rw [Operation.requests, known]
    exact (silent_refuse fun _ => HeapError.noConfusion).tells heap
  | false =>
    rw [Operation.requests, known]
    refine (tells_request heap block.len).bind_silent fun fresh => ?_
    refine (silent_changeArena fun arena => Arena.onlyIn_copy arena block fresh block.len).bind
      fun copied => ?_
    cases copied with
    | none => exact silent_refuse fun _ => HeapError.noConfusion
    | some count => exact (silent_retarget ..).bind fun _ => silent_emit rfl

theorem tells_internShape (heap : Heap) (proto : Handle) :
    Tells ((Operation.internShape proto).requests heap) heap (internShape proto heap) := by
  refine .look_bind (quiet_findShape ..) fun {found} read => ?_
  rw [Operation.requests, read]
  cases found with
  | some shape => exact ((silent_emit rfl).bind fun _ => silent_pure _).tells heap
  | none =>
    refine (tells_allocShape heap proto initialPropSize).bind_silent fun shape => ?_
    exact (silent_hashShape shape).bind fun _ => (silent_emit rfl).bind fun _ => silent_pure _

/-- A full array is to grow before an element is stored in it. -/
theorem tells_storeElement {object : Handle} {capacity : UInt32}
    (known : (heap.elementCapacity object).answer = .ok capacity) (array : Handle) (count : UInt32)
    (value : Value Handle) : Tells
      (if capacity ≤ count then [⟨grownCapacity capacity * Value.size, true⟩] else []) heap
        (storeElement object array count value heap) := by
  refine .look_bind (quiet_elementCapacity ..) fun {capacity'} read => ?_
  cases known.symm.trans read
  split
  · exact (tells_growRecord ..).bind_silent fun _ => silent_fillCell ..
  · exact (silent_fillCell ..).tells heap

/-- An object that has just got its first array has room for as many elements as that has. -/
theorem Sound.tells_attachElements (sound : heap.Sound) (accounted : heap.handles.Accounted)
    {object : Handle} {record : List UInt8}
    (known : heap.view.contents object .object = .ok record) :
    Tells [⟨initialElementCapacity.toNat * Value.size, false⟩] heap
        (Heap.attachElements object heap) ∧
      ∀ {array}, (Heap.attachElements object heap).answer = .ok array →
        ((Heap.attachElements object heap).state.elementCapacity object).answer =
          .ok initialElementCapacity := by
  refine ⟨(tells_allocRecord heap ..).bind_silent fun array => (silent_set ..).bind
    fun _ => (silent_set ..).bind fun _ => silent_pure _, fun {array} made => ?_⟩
  have attaching := sound.attachElements accounted known
  rw [made] at attaching
  cases attaching with
  | attached given dead sound' own elements =>
    have points := arrayValues_attached (sound.length_record known) array
    have live := ne_null_of_kind? (contents_eq_ok elements).1
    rw [← points] at live elements
    rw [sound'.elementCapacity_eq own live elements]
    rfl

theorem Sound.tells_pushElement (sound : heap.Sound) (accounted : heap.handles.Accounted)
    (object : Handle) (value : Value Handle) :
    Tells ((Operation.pushElement object value).requests heap) heap
      (pushElement object value heap) := by
  rw [pushElement_eq]
  refine .look_bind (quiet_tryGet ..) fun {count} read => ?_
  refine .look_bind (quiet_tryGet ..) fun {attached} read' => ?_
  rw [Operation.requests, View.count, sound.field_of_tryGet read, View.elements,
    sound.field_of_tryGet read']
  cases bare : attached.isNull with
  | true =>
    have known := contents_of_kind? (kind?_of_tryGet read)
    obtain ⟨told, room⟩ := sound.tells_attachElements accounted known
    exact told.bind fun {array} made =>
      tells_storeElement (room made) array count value
  | false =>
    have known := sound.answer_elementCapacity object
    simp only [Bool.false_eq_true, if_false, List.nil_append]
    exact tells_storeElement known ..

/-- An operation that makes requests tells of them as it makes them. -/
theorem Sound.tells_perform (sound : heap.Sound) (accounted : heap.handles.Accounted)
    {operation : Operation Handle} (allocates : operation.allocates = true) :
    Tells (operation.requests heap) heap (operation.perform heap) := by
  cases operation with
  | allocObject shape classId =>
    exact (sound.tells_allocObject shape classId).bind_silent fun _ => silent_pure _
  | allocShape proto propSize =>
    exact (tells_allocShape heap proto propSize).bind_silent fun _ => silent_pure _
  | allocProperties capacity =>
    exact (tells_allocRecord heap ..).bind_silent fun _ => silent_pure _
  | allocElements capacity =>
    exact (tells_allocRecord heap ..).bind_silent fun _ => silent_pure _
  | reserve size => exact (tells_request heap size).bind_silent fun _ => silent_pure _
  | growProperties storage capacity =>
    exact (sound.tells_growProperties storage capacity).bind_silent fun _ => silent_pure _
  | pushElement object value =>
    exact (sound.tells_pushElement accounted object value).bind_silent fun _ => silent_pure _
  | relocate target => exact (tells_relocate heap target).bind_silent fun _ => silent_pure _
  | internShape proto => exact (tells_internShape heap proto).bind_silent fun _ => silent_pure _
  | _ => cases allocates

/-! ## 3. What a refusal tells -/

/-- An operation that is refused because the arena is exhausted tells of the first of its requests
that was turned down: the size as it was asked for, the capacity, and the offset at which the
request was made, after those before it were served. Only where a record was to grow is the offset
another one, if the request has moved it. The observer is told of the same request, if it reached
the offset, always with the offset at which it was made. -/
theorem exhaustion_told {config : Config} {requested : Nat}
    (reached : Reached config requested heap) (few : requested < sizeLimit)
    {operation : Operation Handle} (allocates : operation.allocates = true)
    {size offset capacity : Nat}
    (refused : (operation.perform heap).answer =
      .error (.refused (.outOfMemory (.exhausted size offset capacity)))) :
    ∃ earlier request later, operation.requests heap = earlier ++ request :: later ∧
      heap.arena.Serves earlier ∧
      Exhaustion (heap.arena.after earlier) request size offset capacity
        (exhaustions (operation.perform heap).events) ∧
      (offset = (heap.arena.after earlier).used ↔
        request.grows = false ∨ (heap.arena.after earlier).asked request.size = 0) := by
  have tracked := tracked_of_reached reached
  obtain ⟨sound, -⟩ := tracked.sound few
  obtain ⟨earlier, request, later, split, served, told⟩ :=
    (sound.tells_perform (accounted_of_reached reached) allocates).refused refused
  exact ⟨earlier, request, later, split, served, told,
    told.offset_eq_iff (tracked.regular.after earlier)⟩

/-- An object without an element array that counts eight elements, and little space left. -/
def shortOfSpace : List (Operation Handle) :=
  [.allocObject .null 0, .set ⟨1, 0⟩ ObjectField.arrayCount 8, .reserve 848]

/-- Its first push gets an array, which is to grow at once. -/
theorem exhaustion_told_small :
    let heap := newSmall.run shortOfSpace
    let push : Operation Handle := .pushElement ⟨1, 0⟩ (.int 5)
    push.requests heap = [⟨64, false⟩, ⟨128, true⟩] ∧ heap.arena.used = 896 ∧
      (push.perform heap).answer =
        .error (.refused (.outOfMemory (.exhausted 128 1088 1024))) ∧
      exhaustions (push.perform heap).events = [(128, 960, 1024)] ∧
      ∃ earlier request later, push.requests heap = earlier ++ request :: later ∧
        heap.arena.Serves earlier ∧
        Exhaustion (heap.arena.after earlier) request 128 1088 1024
          (exhaustions (push.perform heap).events) ∧
        (1088 = (heap.arena.after earlier).used ↔
          request.grows = false ∨ (heap.arena.after earlier).asked request.size = 0) := by
  have reached : Reached { arenaCapacity := 1024 } (runCounting 0 newSmall shortOfSpace).1
      (newSmall.run shortOfSpace) := reached_run (.new new_small) shortOfSpace
  have run : (runCounting 0 newSmall shortOfSpace).1 < sizeLimit ∧
      (Operation.pushElement ⟨1, 0⟩ (.int 5)).requests (newSmall.run shortOfSpace) =
        [⟨64, false⟩, ⟨128, true⟩] ∧ (newSmall.run shortOfSpace).arena.used = 896 ∧
      (pushElement ⟨1, 0⟩ (.int 5) (newSmall.run shortOfSpace)).answer =
        .error (.refused (.outOfMemory (.exhausted 128 1088 1024))) ∧
      exhaustions ((Operation.pushElement ⟨1, 0⟩ (.int 5)).perform
        (newSmall.run shortOfSpace)).events = [(128, 960, 1024)] := by
    decide +kernel
  obtain ⟨few, requests, used, failed, warned⟩ := run
  have refused : ((Operation.pushElement ⟨1, 0⟩ (.int 5)).perform
      (newSmall.run shortOfSpace)).answer =
        .error (.refused (.outOfMemory (.exhausted 128 1088 1024))) := answer_bind_of_error failed
  exact ⟨requests, used, refused, warned, exhaustion_told reached few rfl refused⟩

/-- A property array of 960 bytes that is to grow is refused, and the offset that is told is the one
after the request. The observer is told the one at which it was made. -/
theorem growth_told_behind :
    let heap := newSmall.run [.allocProperties 40]
    let grow : Operation Handle := .growProperties ⟨1, 0⟩ 41
    Reached { arenaCapacity := 1024 } 960 heap ∧ heap.arena.used = 960 ∧
      grow.requests heap = [⟨984, true⟩] ∧
      (grow.perform heap).answer =
        .error (.refused (.outOfMemory (.exhausted 984 1952 1024))) ∧
      exhaustions (grow.perform heap).events = [(984, 960, 1024)] := by
  have run : (runCounting 0 newSmall [.allocProperties 40]).1 = 960 ∧
      (newSmall.run [.allocProperties 40]).arena.used = 960 ∧
      (Operation.growProperties ⟨1, 0⟩ 41).requests (newSmall.run [.allocProperties 40]) =
        [⟨984, true⟩] ∧
      (growProperties ⟨1, 0⟩ 41 (newSmall.run [.allocProperties 40])).answer =
        .error (.refused (.outOfMemory (.exhausted 984 1952 1024))) ∧
      exhaustions ((Operation.growProperties ⟨1, 0⟩ 41).perform
        (newSmall.run [.allocProperties 40])).events = [(984, 960, 1024)] := by
    decide +kernel
  obtain ⟨count, used, requests, failed, warned⟩ := run
  have reached : Reached { arenaCapacity := 1024 } (runCounting 0 newSmall [.allocProperties 40]).1
      (newSmall.run [.allocProperties 40]) := reached_run (.new new_small) [.allocProperties 40]
  exact ⟨count ▸ reached, used, requests, answer_bind_of_error failed, warned⟩

end Heap

end HandleHeap
