import HandleHeap.Proofs.Handle.Balance
import HandleHeap.Proofs.Heap.Refusal

/-!
# When an object can be made

An object takes a block and a handle, and a second block and handle if its shape asks for property
slots. It is made if and only if the arena and the handle table have room for both; otherwise
nothing is left of it.

* `HasRoom`, `Sound.allocRecord_cases`: when a record is made, and what is left of the room then.
* `HasRoomFor`, `Sound.makeObject_cases`: the same for an object with its slots, which
  `Sound.furnishObject_cases` makes for it.
* `NewObject`: what is known of an object that was just made.
* `allocObject_exact`: an object is made if there is room and its shape is null-like or a live
  shape. Only its own handles become live, and no other record changes. A refused one leaves every
  handle as it was.
-/

namespace HandleHeap

open HandleHeap.Action

/-- A size rounded up to the alignment. -/
def roundUp (size : Nat) : Nat := (size + 15) / 16 * 16

theorem padded?_eq_roundUp {size : Nat} (small : size + 15 < sizeLimit) :
    padded? size = some (roundUp size) := if_pos small

/-- One more handle is live. -/
theorem HandleTable.live_register {α : Type} {address : α} {table after : HandleTable α}
    {handle : Handle} {events : List Event}
    (issued : register address table = ⟨.ok handle, after, events⟩) :
    after.live = table.live + 1 ∧ after.limit = table.limit := by
  have occupied {start : HandleTable α} {index : UInt32}
      (run : occupy index address start = ⟨.ok handle, after, events⟩) :
      after.live = start.live + 1 ∧ after.limit = start.limit := by
    unfold occupy at run
    split at run <;> cases run
    exact ⟨rfl, rfl⟩
  unfold register at issued
  split at issued
  · have counted := occupied issued
    exact counted
  · simp only at issued
    split at issued
    · cases issued
    · have counted := occupied issued
      exact counted

namespace Heap

variable {heap : Heap}

/-! ## 1. Room for a record -/

/-- The arena has space for a record of a size, and the handle table a handle for it. -/
structure HasRoom (heap : Heap) (size : Nat) : Prop where
  ready : heap.arena.initialized = true
  space : heap.arena.used + roundUp size ≤ heap.arena.capacity
  handle : heap.handles.live < heap.handles.limit

/-- The arena asks for the rounded size where it could hold that much. -/
theorem asked_eq_roundUp {arena : Arena} {size : Nat} (pos : 0 < size)
    (small : size + 15 < sizeLimit) (ready : arena.initialized = true)
    (space : roundUp size ≤ arena.capacity) :
    arena.asked size = roundUp size := by
  rw [Arena.asked, padded?_eq_roundUp small]
  exact if_pos ⟨ready, Nat.ne_of_gt pos, space⟩

theorem allocate_isOk_iff {arena : Arena} {size : Nat} (pos : 0 < size)
    (small : size + 15 < sizeLimit) :
    (∃ block, (Arena.allocate size arena).answer = .ok block) ↔
      arena.initialized = true ∧ arena.used + roundUp size ≤ arena.capacity := by
  constructor
  · rintro ⟨block, given⟩
    obtain ⟨asked, space, -⟩ := Arena.allocate_eq_ok_iff.mp given
    obtain ⟨padded, ready, -⟩ := Arena.asked_eq_of_pos asked
    rw [Option.some.inj ((padded?_eq_roundUp small).symm.trans padded)]
    exact ⟨ready, space⟩
  · rintro ⟨ready, space⟩
    have asked := asked_eq_roundUp pos small ready (by omega)
    have some : 0 < roundUp size := by unfold roundUp; omega
    exact ⟨_, Arena.allocate_eq_ok_iff.mpr ⟨asked ▸ some, asked ▸ space, rfl⟩⟩

/-- What is known after a record was made. -/
structure MadeRecord (kind : RecordKind) (size : Nat) (handle : Handle) (before after : Heap) :
    Prop where
  sound : after.Sound
  accounted : after.handles.Accounted
  fresh : before.handles.resolve handle = none
  contents : after.view.contents handle kind = .ok (List.replicate size 0)
  others : ∀ {other}, other ≠ handle → Same other before after
  ready : after.arena.initialized = before.arena.initialized
  capacity : after.arena.capacity = before.arena.capacity
  used : after.arena.used = before.arena.used + roundUp size
  live : after.handles.live = before.handles.live + 1
  limit : after.handles.limit = before.handles.limit

/-- A record that was made takes up its rounded size, for which there was space, and one handle. -/
theorem Made.takes {kind : RecordKind} {size : Nat} {bytes : List UInt8} {after : Heap}
    {handle : Handle} (made : Made kind size bytes heap after (.ok handle)) (sound : heap.Sound)
    (pos : 0 < size) (small : size + 15 < sizeLimit) :
    (heap.arena.initialized = true ∧ heap.arena.used + roundUp size ≤ heap.arena.capacity) ∧
      after.arena.initialized = heap.arena.initialized ∧
      after.arena.capacity = heap.arena.capacity ∧
      after.arena.used = heap.arena.used + roundUp size ∧
      after.handles.live = heap.handles.live + 1 ∧
      after.handles.limit = heap.handles.limit := by
  cases made with
  | made given registered view _ =>
    obtain ⟨ready, space⟩ := (allocate_isOk_iff pos small).mp ⟨_, given⟩
    have asked := asked_eq_roundUp pos small ready (by omega)
    obtain ⟨live, limit⟩ := HandleTable.live_register registered
    have usage : after.arena.usage = (Arena.allocate size heap.arena).state.usage :=
      congrArg View.usage view
    rw [Arena.state_allocate sound.regular.used_lt, asked, Nat.mod_eq_of_lt
      (Nat.lt_of_le_of_lt space sound.regular.capacity_lt)] at usage
    have counted : after.labels = _ := congrArg View.labels view
    exact ⟨⟨ready, space⟩, congrArg ArenaUsage.initialized usage,
      congrArg ArenaUsage.capacity usage, congrArg ArenaUsage.used usage,
      (congrArg HandleTable.live counted).trans live,
      (congrArg HandleTable.limit counted).trans limit⟩

/-- A record is made if and only if there is room for it. -/
theorem Sound.allocRecord_cases (sound : heap.Sound) (accounted : heap.handles.Accounted)
    {kind : RecordKind} {size : Nat} (allowed : 0 < size → kind.Allows size) (pos : 0 < size)
    (small : size + 15 < sizeLimit) :
    (∃ handle after events, Heap.allocRecord kind size heap = ⟨.ok handle, after, events⟩ ∧
        heap.HasRoom size ∧ MadeRecord kind size handle heap after) ∨
      ∃ error after events,
        Heap.allocRecord kind size heap = ⟨.error (.refused error), after, events⟩ ∧
          ¬ heap.HasRoom size := by
  have made := sound.allocRecord allowed
  have accounted' := accounted_allocRecord kind size accounted
  have labels : heap.labels.Accounted := (HandleTable.accounted_map ..).mpr accounted
  have issued := labels.register_isOk_iff ⟨kind, false⟩
  rcases run : Heap.allocRecord kind size heap with ⟨stop | handle, after, events⟩
  · rw [run] at made
    have made : Made kind size (List.replicate size 0) heap after (.error stop) := made
    obtain ⟨error, rfl, -⟩ := made.error_cases accounted
    refine .inr ⟨error, after, events, rfl, fun room => ?_⟩
    cases made with
    | refused given _ =>
      obtain ⟨block, granted⟩ := (allocate_isOk_iff pos small).mpr ⟨room.ready, room.space⟩
      cases granted.symm.trans given
    | full _ full _ =>
      obtain ⟨handle, granted⟩ := issued.mpr room.handle
      rw [full] at granted
      cases granted
  · have answer := congrArg Outcome.answer run
    have fresh := sound.resolve_of_made allowed answer
    have others {other : Handle} (differ : other ≠ handle) :=
      sound.others_of_made allowed answer differ
    rw [run] at made accounted' others
    have made : Made kind size (List.replicate size 0) heap after (.ok handle) := made
    refine .inl ⟨handle, after, events, rfl, ?_⟩
    have contents := made.contents
    obtain ⟨⟨ready, space⟩, ready', capacity, used, live, limit⟩ := made.takes sound pos small
    cases made with
    | made given registered view sound' =>
      have room := issued.mp ⟨handle, congrArg Outcome.answer registered⟩
      exact ⟨⟨ready, space, room⟩, sound', accounted', fresh, contents, others, ready', capacity,
        used, live, limit⟩

/-! ## 2. Room for an object -/

/-- The arena has space for an object with its slots, and the handle table a handle for each
record. -/
structure HasRoomFor (heap : Heap) (slots : UInt32) : Prop where
  ready : heap.arena.initialized = true
  space : heap.arena.used + 48 + (24 * slots.toNat + 15) / 16 * 16 ≤ heap.arena.capacity
  handles : heap.handles.live + 1 + (if 0 < slots then 1 else 0) ≤ heap.handles.limit

theorem HasRoomFor.object {slots : UInt32} (room : heap.HasRoomFor slots) :
    heap.HasRoom Layout.object.size :=
  ⟨room.ready, Nat.le_trans (Nat.le_add_right _ _) room.space,
    Nat.le_trans (Nat.le_add_right _ _) room.handles⟩

theorem hasRoomFor_none {slots : UInt32} (none : ¬ 0 < slots)
    (room : heap.HasRoom Layout.object.size) : heap.HasRoomFor slots := by
  have zero : slots = 0 := UInt32.le_zero_iff.mp (UInt32.not_lt.mp none)
  subst zero
  exact ⟨room.ready, room.space, room.handle⟩

/-- There is room for an object with slots if there is room for the slots after the object. -/
theorem hasRoomFor_some {slots : UInt32} (some : 0 < slots) {object : Handle} {middle : Heap}
    (made : MadeRecord .object Layout.object.size object heap middle) :
    heap.HasRoomFor slots ↔ middle.HasRoom (slots.toNat * Slot.size) := by
  have used : middle.arena.used = heap.arena.used + 48 := made.used
  have rounded : roundUp (slots.toNat * Slot.size) = (24 * slots.toNat + 15) / 16 * 16 := by
    rw [roundUp, Slot.size, Nat.mul_comm slots.toNat]
  constructor
  · intro room
    refine ⟨made.ready.trans room.ready, ?_, ?_⟩
    · rw [used, made.capacity, rounded]
      exact room.space
    · rw [made.live, made.limit]
      have handles := room.handles
      rwa [if_pos some] at handles
  · intro room
    refine ⟨made.ready.symm.trans room.ready, ?_, ?_⟩
    · have space := room.space
      rwa [used, made.capacity, rounded] at space
    · have handles := room.handle
      rw [made.live, made.limit] at handles
      rwa [if_pos some]

/-- What is left after an object was made under a handle that named nothing. No other handle than
its own and that of its property array has become live or been ended. -/
structure Created (shape : Handle) (classId : UInt16) (slots : UInt32) (object props : Handle)
    (before after : Heap) : Prop where
  fresh : before.handles.resolve object = none
  record : after.view.contents object .object = .ok (newObject shape props classId)
  array : if 0 < slots then before.handles.resolve props = none ∧
      after.view.contents props .propertyArray = .ok (List.replicate (slots.toNat * Slot.size) 0)
    else props = .null
  others : ∀ other, other ≠ object → (0 < slots → other ≠ props) →
    after.isLive other = before.isLive other

theorem isLive_of_view {after : Heap} (labels : after.view.labels = heap.view.labels)
    (handle : Handle) : after.isLive handle = heap.isLive handle := by
  rw [← isLive_labels, ← isLive_labels, show after.labels = heap.labels from labels]

/-- What is left after a property array was made for an object and its fields were filled in. -/
structure Furnished (shape : Handle) (classId : UInt16) (slots : UInt32) (object props : Handle)
    (before after : Heap) : Prop where
  differ : props ≠ object
  fresh : before.handles.resolve props = none
  record : after.view.contents object .object = .ok (newObject shape props classId)
  array : after.view.contents props .propertyArray =
    .ok (List.replicate (slots.toNat * Slot.size) 0)
  others : ∀ other, other ≠ props → after.isLive other = before.isLive other

/-- A new object that is to have slots gets them if and only if there is room for them. -/
theorem Sound.furnishObject_cases (sound : heap.Sound) (accounted : heap.handles.Accounted)
    {object : Handle}
    (blank : heap.view.contents object .object = .ok (List.replicate Layout.object.size 0))
    (shape : Handle) (classId : UInt16) {slots : UInt32} (some : 0 < slots) :
    (∃ props, (furnishObject shape object classId slots heap).answer = .ok object ∧
        heap.HasRoom (slots.toNat * Slot.size) ∧
        Furnished shape classId slots object props heap
          (furnishObject shape object classId slots heap).state) ∨
      ∃ error, (furnishObject shape object classId slots heap).answer = .error (.refused error) ∧
        ¬ heap.HasRoom (slots.toNat * Slot.size) := by
  have pos : 0 < slots.toNat * Slot.size :=
    Nat.mul_pos (UInt32.lt_iff_toNat_lt.mp some) (by decide)
  have small : slots.toNat * Slot.size + 15 < sizeLimit := by
    have := slots.toNat_lt
    unfold Slot.size sizeLimit
    omega
  unfold furnishObject
  rcases sound.allocRecord_cases accounted (fun _ => allows_slots pos) pos small with
    ⟨props, after, events, run, room, made⟩ | ⟨error, after, events, run, full⟩
  · have tried := attempt_of_ok (show allocProperties slots heap = _ from run)
    have differ : object ≠ props := by
      rintro rfl
      obtain ⟨placement, live, -⟩ := kind?_eq_some (contents_eq_ok blank).1
      cases live.symm.trans made.fresh
    have kept := (made.others differ).contents.trans blank
    obtain ⟨last, fill, view⟩ := made.sound.fillObject_zeros kept shape props classId
    rw [answer_bind_of_ok tried, state_bind_of_ok tried]
    refine .inl ⟨props, congrArg Outcome.answer fill, room, ?_⟩
    rw [show (fillObject shape object props classId after).state = last from
      congrArg Outcome.state fill]
    refine ⟨Ne.symm differ, made.fresh, ?_, ?_, fun other notProps => ?_⟩
    · rw [view]
      exact View.contents_withBytes_self _ kept _
    · rw [view, View.contents_withBytes_ne _ (Ne.symm differ)]
      exact made.contents
    · have filled : last.view.labels = after.view.labels := by rw [view]; rfl
      rw [isLive_of_view filled]
      exact HandleTable.isLive_congr (made.others notProps).resolve
  · have tried := attempt_of_refused (show allocProperties slots heap = _ from run)
    obtain ⟨live, gone⟩ := exists_answer_end
      (accounted_allocRecord .propertyArray (slots.toNat * Slot.size) accounted) object
    rw [show Heap.allocRecord _ _ heap = _ from run] at gone
    rw [answer_bind_of_ok tried]
    exact .inr ⟨error, answer_bind_refuse gone error, full⟩

/-- An object is made with its slots if and only if there is room for both. -/
theorem Sound.makeObject_cases (sound : heap.Sound) (accounted : heap.handles.Accounted)
    (shape : Handle) (classId : UInt16) (slots : UInt32) :
    (∃ object props, (makeObject shape classId slots heap).answer = .ok object ∧
        heap.HasRoomFor slots ∧
        Created shape classId slots object props heap (makeObject shape classId slots heap).state) ∨
      ∃ error, (makeObject shape classId slots heap).answer = .error (.refused error) ∧
        ¬ heap.HasRoomFor slots := by
  have allowed : 0 < Layout.object.size → RecordKind.object.Allows Layout.object.size :=
    fun _ => rfl
  unfold makeObject
  rcases sound.allocRecord_cases accounted allowed (by decide) (by decide) with
    ⟨object, middle, events, run, room, made⟩ | ⟨error, middle, events, run, full⟩
  · rw [answer_bind_of_ok run, state_bind_of_ok run]
    by_cases some : 0 < slots
    · rw [if_pos some, hasRoomFor_some some made]
      rcases made.sound.furnishObject_cases made.accounted made.contents shape classId some with
        ⟨props, answer, room', furnished⟩ | refused
      · refine .inl ⟨object, props, answer, room', made.fresh, furnished.record, ?_, ?_⟩
        · rw [if_pos some]
          exact ⟨(made.others furnished.differ).resolve.symm.trans furnished.fresh,
            furnished.array⟩
        · intro other notObject notProps
          exact (furnished.others other (notProps some)).trans
            (HandleTable.isLive_congr (made.others notObject).resolve)
      · exact .inr refused
    · obtain ⟨last, fill, view⟩ := made.sound.fillObject_zeros made.contents shape .null classId
      rw [if_neg some]
      refine .inl ⟨object, .null, congrArg Outcome.answer fill, hasRoomFor_none some room, ?_⟩
      rw [show (fillObject shape object .null classId middle).state = last from
        congrArg Outcome.state fill]
      refine ⟨made.fresh, ?_, by rw [if_neg some], fun other notObject _ => ?_⟩
      · rw [view]
        exact View.contents_withBytes_self _ made.contents _
      · have filled : last.view.labels = middle.view.labels := by rw [view]; rfl
        rw [isLive_of_view filled]
        exact HandleTable.isLive_congr (made.others notObject).resolve
  · rw [answer_bind_of_error (congrArg Outcome.answer run)]
    exact .inr ⟨error, rfl, fun room => full room.object⟩

/-- An object is made with the slots that its shape asks for. -/
theorem Sound.allocObject_cases (sound : heap.Sound) (accounted : heap.handles.Accounted)
    (shape : Handle) (classId : UInt16) :
    let slots := heap.view.field shape ShapeField.propSize
    (∃ object props, (Heap.allocObject shape classId heap).answer = .ok object ∧
        ((shape.isNull = true ∨ heap.kind? shape = some .shape) ∧ heap.HasRoomFor slots) ∧
        Created shape classId slots object props heap (Heap.allocObject shape classId heap).state) ∨
      ∃ error, (Heap.allocObject shape classId heap).answer = .error (.refused error) ∧
        ¬ ((shape.isNull = true ∨ heap.kind? shape = some .shape) ∧ heap.HasRoomFor slots) := by
  intro slots
  have made := sound.makeObject_cases accounted shape classId slots
  rw [allocObject_eq]
  cases null : shape.isNull with
  | true =>
    have none : slots = 0 := Except.ok.inj
      ((sound.answer_get shape ShapeField.propSize).symm.trans
        (answer_get_null heap null ShapeField.propSize))
    have run : (pure 0 >>= makeObject shape classId) heap =
        makeObject shape classId slots heap := by
      rw [none]
      rfl
    simp only [if_true]
    rw [run]
    simpa using made
  | false =>
    cases known : heap.view.contents shape Layout.shape.kind with
    | error stop =>
      obtain ⟨error, events, rfl, refused⟩ := tryGet_eq_error known ShapeField.propSize
      refine .inr ⟨error, ?_, ?_⟩
      · exact congrArg Outcome.answer
          (look_bind_of_error (Heap.tryGet · shape ShapeField.propSize) refused)
      · rintro ⟨null' | kind, -⟩
        · cases null'
        · cases known.symm.trans (contents_of_kind? kind)
    | ok bytes =>
      have asked : slots = ShapeField.propSize.read bytes := field_of_contents known _
      have run : (look (·.tryGet shape ShapeField.propSize) >>= makeObject shape classId) heap =
          makeObject shape classId slots heap := by
        rw [asked]
        exact look_bind_of_pure (Heap.tryGet · shape ShapeField.propSize)
          (sound.tryGet_eq_pure known ShapeField.propSize)
      have kind : heap.kind? shape = some .shape := (contents_eq_ok known).1
      simp only [Bool.false_eq_true, if_false, false_or, kind, true_and]
      rw [run]
      exact made

/-! ## 3. New objects -/

section Fields

variable (shape props : Handle) (classId : UInt16)

theorem shape_newObject : ObjectField.shape.read (newObject shape props classId) = shape := by
  rw [newObject, Field.read_write_apart _ _ (by decide), Field.read_write_apart _ _ (by decide),
    Field.read_write_apart _ _ (by decide), Field.read_write _ _ (by simp)]

theorem classId_newObject : ObjectField.classId.read (newObject shape props classId) = classId := by
  rw [newObject, Field.read_write_apart _ _ (by decide), Field.read_write _ _ (by simp)]

theorem extensible_newObject :
    ObjectField.extensible.read (newObject shape props classId) = true := by
  rw [newObject, Field.read_write _ _ (by simp)]

end Fields

/-- A property array of empty slots under a handle that was not live. -/
structure NewSlots (slots : UInt32) (props : Handle) (before after : Heap) : Prop where
  fresh : before.isLive props = false
  kind : after.kind? props = some .propertyArray
  capacity : (after.slotCapacity props).answer = .ok slots
  empty : ∀ index < slots, (after.trySlot props index).answer = .ok .empty

/-- An object with its slots under a handle that was not live. The other fields are zeroed, no other
handle has become live or been ended, and no record that was live has changed or moved. -/
structure NewObject (shape : Handle) (classId : UInt16) (slots : UInt32) (object : Handle)
    (before after : Heap) : Prop where
  fresh : before.isLive object = false
  kind : after.kind? object = some .object
  shape : (after.tryGet object ObjectField.shape).answer = .ok shape
  classId : (after.tryGet object ObjectField.classId).answer = .ok classId
  extensible : (after.tryGet object ObjectField.extensible).answer = .ok true
  others : ∀ {scalar} (field : Field .object scalar), field.Apart ObjectField.shape →
    field.Apart ObjectField.props → field.Apart ObjectField.classId →
      field.Apart ObjectField.extensible →
        (after.tryGet object field).answer = .ok scalar.sentinel
  props : ∃ props, (after.tryGet object ObjectField.props).answer = .ok props ∧
    (if 0 < slots then NewSlots slots props before after else props = .null) ∧
    ∀ handle, after.isLive handle = true ↔
      before.isLive handle = true ∨ handle = object ∨ (0 < slots ∧ handle = props)
  kept : ∀ handle, before.isLive handle = true → Same handle before after

/-- A property array of zeros has empty slots. -/
theorem Sound.newSlots {after : Heap} (sound : after.Sound) {slots : UInt32} {props : Handle}
    (fresh : heap.isLive props = false) (known : after.view.contents props .propertyArray =
      .ok (List.replicate (slots.toNat * Slot.size) 0)) : NewSlots slots props heap after := by
  have cells : (List.replicate (slots.toNat * Slot.size) (0 : UInt8)).length / Slot.size =
      slots.toNat := by
    rw [List.length_replicate]
    exact Nat.mul_div_cancel _ (by decide)
  refine ⟨fresh, (contents_eq_ok known).1, ?_, fun index inside => ?_⟩
  · refine (sound.answer_capacity props .propertyArray Slot.size).trans ?_
    rw [View.capacity, known]
    show Except.ok (UInt32.ofNat (_ / _)) = _
    rw [cells, UInt32.ofNat_toNat]
  · have inside := UInt32.lt_iff_toNat_lt.mp inside
    have start : Heap.cell (List.replicate (slots.toNat * Slot.size) (0 : UInt8)).length index
        Slot.size = .ok (index.toNat * Slot.size) := if_pos (cells.symm ▸ inside)
    rw [sound.answer_trySlot, View.cell, known]
    show Except.map Slot.decode ((Heap.cell _ index Slot.size).bind _) = _
    rw [start]
    exact congrArg Except.ok (Slot.codec.read_zeros (cell_fits inside))

/-- What is created is a new object. -/
theorem Created.newObject {shape object props : Handle} {classId : UInt16} {slots : UInt32}
    {after : Heap} (created : Created shape classId slots object props heap after)
    (sound : after.Sound) (kept : ∀ handle, heap.isLive handle = true → Same handle heap after) :
    NewObject shape classId slots object heap after := by
  have known : after.view.contents object Layout.object.kind =
      .ok (Heap.newObject shape props classId) := created.record
  have read {scalar : Scalar} (field : Field .object scalar) : (after.tryGet object field).answer =
      .ok (field.read (Heap.newObject shape props classId)) := by
    rw [sound.answer_tryGet, known]
    rfl
  have live : after.isLive object = true := isLive_of_kind? (contents_eq_ok known).1
  refine ⟨dead_iff.mpr created.fresh, (contents_eq_ok known).1, ?_, ?_, ?_,
    fun field first second third last => ?_, ⟨props, ?_, ?_, fun handle => ?_⟩, kept⟩
  · rw [read, shape_newObject]
  · rw [read, classId_newObject]
  · rw [read, extensible_newObject]
  · rw [read, read_newObject shape props classId first second third last]
  · rw [read, props_newObject]
  · have array := created.array
    split at array
    · next some =>
      rw [if_pos some]
      exact sound.newSlots (dead_iff.mpr array.1) array.2
    · next none => rwa [if_neg none]
  · have array := created.array
    by_cases own : handle = object
    · subst own
      exact iff_of_true live (.inr (.inl rfl))
    · by_cases attached : 0 < slots ∧ handle = props
      · obtain ⟨some, rfl⟩ := attached
        rw [if_pos some] at array
        exact iff_of_true (isLive_of_kind? (contents_eq_ok array.2).1) (.inr (.inr ⟨some, rfl⟩))
      · rw [created.others handle own fun some same => attached ⟨some, same⟩]
        refine ⟨.inl, ?_⟩
        rintro (live | same | both)
        · exact live
        · exact absurd same own
        · exact absurd both attached

/-! ## 4. Result -/

/-- An object is made if and only if its shape is null-like or a live shape and there is room for
the object and the slots that the shape asks for. It is new then, and so are its slots; no other
handle becomes live and no other record changes. An object that is not made is refused, and leaves
every handle with the record that it named. -/
theorem allocObject_exact {config : Config} {requested : Nat}
    (reached : Reached config requested heap) (few : requested < sizeLimit) (shape : Handle)
    (classId : UInt16) :
    ∃ slots, (heap.get shape ShapeField.propSize).answer = .ok slots ∧
      ((∃ object, (allocObject shape classId heap).answer = .ok object) ↔
        (shape.isNull = true ∨ heap.kind? shape = some .shape) ∧ heap.HasRoomFor slots) ∧
      (∀ object, (allocObject shape classId heap).answer = .ok object →
        NewObject shape classId slots object heap (allocObject shape classId heap).state) ∧
      ∀ stop, (allocObject shape classId heap).answer = .error stop →
        (∃ error, stop = .refused error) ∧ Spared heap (allocObject shape classId heap).state := by
  obtain ⟨sound, -⟩ := (tracked_of_reached reached).sound few
  have accounted := accounted_of_reached reached
  refine ⟨heap.view.field shape ShapeField.propSize, sound.answer_get shape ShapeField.propSize, ?_⟩
  rcases sound.allocObject_cases accounted shape classId with
    ⟨object, props, answer, room, created⟩ | ⟨error, answer, full⟩
  · have leaves : Leaves heap.Dead heap (allocObject shape classId) :=
      leaves_allocObject sound shape classId
    refine ⟨iff_of_true ⟨object, answer⟩ room, fun other same => ?_, fun stop refused => ?_⟩
    · cases answer.symm.trans same
      refine created.newObject (leaves.sound answer) fun handle live => leaves.same fun dead => ?_
      exact Bool.false_ne_true (dead.symm.trans live)
    · cases answer.symm.trans refused
  · refine ⟨iff_of_false ?_ full, fun other same => ?_, fun stop refused => ?_⟩
    · rintro ⟨object, made⟩
      cases answer.symm.trans made
    · cases answer.symm.trans same
    · cases answer.symm.trans refused
      obtain ⟨same, spared⟩ := sound.reverts_allocObject accounted shape classId error answer
      refine ⟨⟨error, rfl⟩, ?_⟩
      rcases Classical.em error.Shortage with shortage | other
      · exact spared shortage
      · rw [same other]
        exact .refl heap

/-- An object with the two slots of its shape. -/
theorem allocObject_exact_small :
    let requested := (runCounting 0 newSmall smallSession).1
    let heap := newSmall.run smallSession
    Reached { arenaCapacity := 1024 } requested heap ∧ requested < sizeLimit ∧
      (allocObject ⟨1, 0⟩ 9 heap).answer = .ok ⟨5, 0⟩ ∧ heap.HasRoomFor 2 ∧
      NewObject ⟨1, 0⟩ 9 2 ⟨5, 0⟩ heap (allocObject ⟨1, 0⟩ 9 heap).state := by
  have run : (runCounting 0 newSmall smallSession).1 < sizeLimit ∧
      ((newSmall.run smallSession).get ⟨1, 0⟩ ShapeField.propSize).answer = .ok 2 ∧
      (allocObject ⟨1, 0⟩ 9 (newSmall.run smallSession)).answer = .ok ⟨5, 0⟩ := by decide +kernel
  obtain ⟨slots, asked, exact, made, -⟩ :=
    allocObject_exact reached_smallSession run.1 ⟨1, 0⟩ 9
  cases asked.symm.trans run.2.1
  exact ⟨reached_smallSession, run.1, run.2.2, (exact.mp ⟨_, run.2.2⟩).2, made _ run.2.2⟩

end Heap

end HandleHeap
