import HandleHeap.Proofs.Heap.Writing

/-!
# Operations that take blocks

Making a record, moving it and growing it ask the arena for a block. Of the records that were there
they write only the ones they are about, whether there is a block or not.

* `leaves_allocRecord`, `leaves_allocObject`, `leaves_allocShape`, `leaves_internShape` write no
  record that was live before.
* `leaves_growRecord`, `leaves_relocate` write the record that is moved.
* `leaves_pushElement` writes the object and its element array.
-/

namespace HandleHeap.Heap

open HandleHeap.Action

variable {writes : Handle → Prop} {heap : Heap} {α β : Type}

/-! ## 1. Registering and moving -/

/-- Whether a handle was dead in a heap. What an operation makes is named by such handles. -/
def Dead (heap : Heap) (handle : Handle) : Prop := heap.isLive handle = false

theorem dead_iff {handle : Handle} : heap.Dead handle ↔ heap.handles.resolve handle = none := by
  unfold Dead isLive HandleTable.isLive
  cases heap.handles.resolve handle <;> simp

/-- A handle that is dead later was dead before, if only dead ones were written. -/
theorem Dead.of_same {after : Heap} {handle : Handle}
    (same : ∀ {handle}, ¬ heap.Dead handle → Same handle heap after) (dead : after.Dead handle) :
    heap.Dead handle := by
  refine Classical.byContradiction fun live => ?_
  have resolve := (same live).resolve
  rw [dead_iff.mp dead] at resolve
  exact live (dead_iff.mpr resolve.symm)

/-- A fresh block gets a handle, if one is left. -/
theorem Sound.register (sound : heap.Sound) {block : Block} {kind : RecordKind}
    (fresh : heap.Fresh block) (allowed : kind.Allows block.len) :
    Leaves heap.Dead heap (onTable (HandleTable.register ⟨block, kind, false⟩)) := by
  rcases run : HandleTable.register ⟨block, kind, false⟩ heap.handles with
    ⟨stop | handle, table, events⟩
  · have same := HandleTable.resolve_register_error run
    have forgot : Touches heap.Dead heap { heap with handles := table } :=
      sound.forget (fun live => (same _).symm.trans live) fun _ => same _
    unfold Leaves
    rw [onTable_apply run]
    exact forgot.aftermath sound.below
  · obtain ⟨dead, resolve⟩ := HandleTable.resolve_register run
    obtain ⟨sound', same⟩ := sound.settle fresh allowed resolve
    unfold Leaves
    rw [onTable_apply run]
    exact ⟨sound'.toSeparated, rfl, fun live => same fun own => live (own ▸ dead_iff.mpr dead),
      fun _ => ⟨sound'.below, .inl rfl⟩, (nomatch ·)⟩

/-- A live record moves to a fresh block. -/
theorem Sound.move (sound : heap.Sound) {handle : Handle} {old placement : Placement}
    (known : heap.handles.resolve handle = some old) (fresh : heap.Fresh placement.block)
    (allowed : placement.kind.Allows placement.block.len) :
    Leaves (· = handle) heap (onTable (HandleTable.relocate handle placement)) := by
  have live : heap.handles.isLive handle = true := HandleTable.isLive_iff.mpr ⟨old, known⟩
  obtain ⟨sound', same⟩ := sound.settle fresh allowed
    fun other => HandleTable.resolve_relocate live placement other
  exact ⟨sound'.toSeparated, rfl, same, fun _ => ⟨sound'.below, .inl rfl⟩,
    fun _ => .inl sound'.below⟩

/-! ## 2. Making records -/

theorem leaves_allocRecord (sound : heap.Sound) {kind : RecordKind} {size : Nat}
    (allowed : 0 < size → kind.Allows size) :
    Leaves heap.Dead heap (allocRecord kind size) := by
  refine sound.take_bind (Arena.requests_allocate size) fun block arena taken fresh some len => ?_
  obtain ⟨filled, fresh'⟩ := taken.fill heap.Dead fresh (Arena.onlyIn_clear arena block)
  have cleared : Leaves heap.Dead { heap with arena }
      (changeArena fun arena => ((), arena.clear block)) := filled.aftermath taken.below
  refine cleared.bind fun _ after _ run clean _ => ?_
  cases run
  refine (clean.register fresh' (len ▸ allowed some)).bind fun handle after' _ _ made _ => ?_
  exact made.leaves (keeps_bind (keeps_emit _) fun _ => keeps_pure _)

/-- The handle that a new record gets was dead before. -/
theorem dead_of_allocRecord {kind : RecordKind} {size : Nat} {handle : Handle}
    (made : (allocRecord kind size heap).answer = .ok handle) : heap.Dead handle := by
  obtain ⟨block, -, rest⟩ := bind_eq_ok made
  obtain ⟨-, -, rest⟩ := bind_eq_ok rest
  obtain ⟨issued, registered, rest⟩ := bind_eq_ok rest
  obtain ⟨-, -, rest⟩ := bind_eq_ok rest
  cases rest
  -- The table is the one of the heap before, since asking and clearing do not touch it.
  have register : (HandleTable.register ⟨block, kind, false⟩ heap.handles).answer = .ok handle :=
    registered
  rcases run : HandleTable.register ⟨block, kind, false⟩ heap.handles with ⟨stop | given, table, _⟩
  · rw [run] at register
    cases register
  · rw [run] at register
    cases register
    exact dead_iff.mpr (HandleTable.resolve_register run).1

/-- The fields of a new record are written next, which touches no record that was there. -/
theorem leaves_allocRecord_bind (sound : heap.Sound) {kind : RecordKind} {size : Nat}
    (allowed : 0 < size → kind.Allows size) {next : Handle → HeapAction β}
    (rest : ∀ handle after, heap.Dead handle → after.Sound →
      (∀ {handle}, ¬ heap.Dead handle → Same handle heap after) →
        Leaves heap.Dead after (next handle)) :
    Leaves heap.Dead heap (allocRecord kind size >>= next) :=
  (leaves_allocRecord sound allowed).bind fun handle after _ made sound' same =>
    rest handle after (dead_of_allocRecord (congrArg Outcome.answer made)) sound' same

/-- Setting a field of a record that was dead before. -/
theorem touches_set_dead {layout : Layout} {scalar : Scalar} {handle : Handle}
    (dead : heap.Dead handle) (field : Field layout scalar) (value : scalar.Carrier Handle) :
    (set handle field value).Keeps (Touching heap.Dead) :=
  touches_of_fewer (touches_set ..) fun same => same ▸ dead

theorem leaves_allocShape (sound : heap.Sound) (proto : Handle) (propSize : UInt32) :
    Leaves heap.Dead heap (allocShape proto propSize) := by
  unfold allocShape
  refine leaves_allocRecord_bind sound ?_ fun shape after dead sound' _ => ?_
  · exact fun _ => rfl
  · exact sound'.leaves (keeps_bind (touches_set_dead dead ..) fun _ =>
      keeps_bind (touches_set_dead dead ..) fun _ =>
        keeps_bind (touches_set_dead dead ..) fun _ => keeps_pure _)

theorem dead_of_allocShape {proto shape : Handle} {propSize : UInt32}
    (made : (allocShape proto propSize heap).answer = .ok shape) : heap.Dead shape := by
  obtain ⟨issued, made', rest⟩ := bind_eq_ok made
  obtain ⟨_, -, rest⟩ := bind_eq_ok rest
  obtain ⟨_, -, rest⟩ := bind_eq_ok rest
  obtain ⟨_, -, rest⟩ := bind_eq_ok rest
  cases rest
  exact dead_of_allocRecord made'

theorem allows_slots {slots : UInt32} (some : 0 < slots.toNat * Slot.size) :
    RecordKind.propertyArray.Allows (slots.toNat * Slot.size) :=
  ⟨slots.toNat, Nat.pos_of_mul_pos_right some, slots.toNat_lt, rfl⟩

theorem allows_cells {cells : UInt32} (some : 0 < cells.toNat * Value.size) :
    RecordKind.elementArray.Allows (cells.toNat * Value.size) :=
  ⟨cells.toNat, Nat.pos_of_mul_pos_right some, cells.toNat_lt, rfl⟩

theorem leaves_allocProperties (sound : heap.Sound) (capacity : UInt32) :
    Leaves heap.Dead heap (allocProperties capacity) :=
  leaves_allocRecord sound allows_slots

theorem leaves_allocElements (sound : heap.Sound) (capacity : UInt32) :
    Leaves heap.Dead heap (allocElements capacity) :=
  leaves_allocRecord sound allows_cells

/-- A refusal becomes an answer only for work that ends by changing records and refusing, so that
nothing is asked of the arena after it. -/
theorem Leaves.attempt_bind {before : Heap} {action : HeapAction α}
    {next : Except HeapError α → HeapAction β} (first : Leaves writes before action)
    (ok : ∀ a after, after.Sound → (∀ {handle}, ¬ writes handle → Same handle before after) →
      Leaves writes after (next (.ok a)))
    (refused : ∀ e, (next (.error e)).Keeps (Touching writes) ∧
      ∀ heap b, (next (.error e) heap).answer ≠ .ok b) :
    Leaves writes before (action.attempt >>= next) := by
  unfold Leaves at first ⊢
  -- A refusal is turned into an answer, a fault is passed on, and an answer goes on as in a bind.
  rcases run : action before with ⟨(e | f) | a, after, events⟩
  · rw [run] at first
    obtain ⟨touches, ends⟩ := refused e
    have last := touches.step after first.separated
    rw [bind_apply_of_ok (attempt_of_refused run)]
    refine ⟨last.separated, last.capacity.trans first.capacity,
      fun none => (first.same none).trans (last.same none), fun answer => (ends _ _ answer).elim,
      fun _ => ?_⟩
    rcases first.stopped rfl with below | wrapped
    · exact .inl (last.below below)
    · exact .inr ⟨last.capacity ▸ wrapped.beyond, last.used ▸ wrapped.used⟩
  · rw [run] at first
    rw [bind_apply_of_error (attempt_of_fault run)]
    refine ⟨first.separated, first.capacity, first.same, fun answer => ?_,
      fun _ => first.stopped rfl⟩
    cases answer
  · have both : Leaves writes before (action >>= fun a => next (.ok a)) :=
      Leaves.bind first fun a after _ run' sound same => ok a after sound same
    unfold Leaves at both
    rw [bind_apply_of_ok run] at both
    rw [bind_apply_of_ok (attempt_of_ok run)]
    exact both

theorem touches_fillObject {object : Handle} (dead : heap.Dead object) (shape props : Handle)
    (classId : UInt16) : (fillObject shape object props classId).Keeps (Touching heap.Dead) :=
  keeps_bind (touches_set_dead dead ..) fun _ => keeps_bind (touches_set_dead dead ..) fun _ =>
    keeps_bind (touches_set_dead dead ..) fun _ =>
      keeps_bind (touches_set_dead dead ..) fun _ => keeps_pure _

theorem leaves_makeObject (sound : heap.Sound) (shape : Handle) (classId : UInt16)
    (slots : UInt32) : Leaves heap.Dead heap (makeObject shape classId slots) := by
  refine leaves_allocRecord_bind sound ?_ fun object made dead sound' same => ?_
  · exact fun _ => rfl
  split
  · -- What was dead after the object was made was dead before.
    have props := (leaves_allocProperties sound' slots).mono (Dead.of_same same)
    refine props.attempt_bind (fun a after sound'' _ => ?_) fun e => ⟨?_, ?_⟩
    · exact sound''.leaves (touches_fillObject dead shape a classId)
    · exact keeps_bind (touches_of_fewer (touches_end object) fun same => same ▸ dead) fun _ =>
        keeps_refuse e
    · intro heap b answer
      obtain ⟨_, -, refused⟩ := bind_eq_ok answer
      cases refused
  · exact sound'.leaves (touches_fillObject dead shape .null classId)

theorem leaves_allocObject (sound : heap.Sound) (shape : Handle) (classId : UInt16) :
    Leaves heap.Dead heap (allocObject shape classId) := by
  rw [allocObject_eq]
  split
  · exact leaves_makeObject sound shape classId 0
  · exact Leaves.look_bind sound fun slots _ => leaves_makeObject sound shape classId slots

theorem leaves_internShape (sound : heap.Sound) (proto : Handle) :
    Leaves heap.Dead heap (internShape proto) := by
  refine Leaves.look_bind sound fun known _ => ?_
  cases known with
  | some shape => exact sound.leaves (keeps_bind (keeps_emit _) fun _ => keeps_pure _)
  | none =>
    have made := leaves_allocShape sound proto initialPropSize
    refine made.bind fun shape after _ run sound' _ => ?_
    have dead := dead_of_allocShape (congrArg Outcome.answer run)
    have hashed : (hashShape shape).Keeps (Touching heap.Dead) :=
      touches_of_fewer (touches_hashShape shape) fun same => same ▸ dead
    exact sound'.leaves (keeps_bind hashed fun _ =>
      keeps_bind (keeps_emit _) fun _ => keeps_pure _)

/-! ## 3. Moving records -/

theorem leaves_growRecord (sound : heap.Sound) (handle : Handle) {kind : RecordKind} {size : Nat}
    (allowed : kind.Allows size) : Leaves (· = handle) heap (growRecord handle kind size) := by
  refine Leaves.look_bind sound fun old located => ?_
  obtain ⟨placement, known, -, same⟩ := locate_eq_ok located
  refine sound.take_bind (Arena.requests_reallocate old size) fun fresh arena taken free _ len => ?_
  -- The request did not touch the table, so the record read again is the same one.
  refine Leaves.look_bind taken fun placement' found => ?_
  cases (placement_eq_ok found).symm.trans known
  have fits : placement.kind.Allows fresh.len := by rw [same, len]; exact allowed
  exact (taken.move known free fits).bind fun _ _ _ _ moved _ => moved.leaves (keeps_emit _)

theorem leaves_relocate (sound : heap.Sound) (handle : Handle) :
    Leaves (· = handle) heap (relocate handle) := by
  refine Leaves.look_bind sound fun placement found => ?_
  have known := placement_eq_ok found
  split
  · exact sound.leaves (keeps_refuse _)
  · refine sound.take_bind (Arena.requests_allocate _) fun fresh arena taken free _ len => ?_
    obtain ⟨filled, free'⟩ := taken.fill (· = handle) free
      (Arena.onlyIn_copy arena placement.block fresh placement.block.len)
    have copied : Leaves (· = handle) { heap with arena }
        (changeArena (Arena.copy placement.block fresh placement.block.len)) :=
      filled.aftermath taken.below
    refine copied.bind fun count after _ run sound' _ => ?_
    obtain rfl : { heap with arena := (Arena.copy _ fresh _ arena).2 } = after :=
      congrArg Outcome.state run
    cases count with
    | none => exact sound'.leaves (keeps_refuse _)
    | some _ =>
      have fits : placement.kind.Allows fresh.len := len ▸ (sound.placed known).allowed
      exact (sound'.move known free' fits).bind fun _ _ _ _ moved _ => moved.leaves (keeps_emit _)

theorem leaves_growProperties (sound : heap.Sound) (storage : Handle) (capacity : UInt32) :
    Leaves (· = storage) heap (growProperties storage capacity) := by
  refine Leaves.look_bind sound fun current _ => ?_
  split
  · exact sound.leaves (keeps_bind (keeps_look _) fun _ => keeps_pure _)
  · next longer =>
    have some : 0 < capacity.toNat * Slot.size := by
      have := UInt32.lt_iff_toNat_lt.mp (UInt32.not_le.mp longer)
      unfold Slot.size
      omega
    exact leaves_growRecord sound storage (allows_slots some)

/-! ## 4. Elements -/

/-- Whether a handle is the element array of an object. -/
def HasElements (heap : Heap) (object values : Handle) : Prop :=
  (heap.tryGet object ObjectField.arrayValues).answer = .ok values

theorem allows_grownCapacity (capacity : UInt32) :
    RecordKind.elementArray.Allows (grownCapacity capacity * Value.size) := by
  refine ⟨grownCapacity capacity, ?_, ?_, rfl⟩
  · unfold grownCapacity
    exact Nat.lt_of_lt_of_le (by decide) (Nat.le_max_right ..)
  · unfold grownCapacity
    have small : initialElementCapacity.toNat = 4 := rfl
    omega

theorem leaves_attachElements (sound : heap.Sound) (object : Handle) :
    Leaves (fun handle => handle = object ∨ heap.Dead handle) heap (attachElements object) := by
  unfold attachElements
  refine ((leaves_allocElements sound _).mono .inr).bind fun values after _ _ made _ => ?_
  have touches_object {scalar : Scalar} (field : Field .object scalar)
      (value : scalar.Carrier Handle) : (set object field value).Keeps
        (Touching fun handle => handle = object ∨ heap.Dead handle) :=
    touches_of_fewer (touches_set ..) .inl
  exact made.leaves (keeps_bind (touches_object ..) fun _ => keeps_bind (touches_object ..) fun _ =>
    keeps_pure _)

theorem dead_of_attachElements {object values : Handle}
    (made : (attachElements object heap).answer = .ok values) : heap.Dead values := by
  obtain ⟨issued, made', rest⟩ := bind_eq_ok made
  obtain ⟨_, -, rest⟩ := bind_eq_ok rest
  obtain ⟨_, -, rest⟩ := bind_eq_ok rest
  cases rest
  exact dead_of_allocRecord made'

theorem touches_fillCell (object array : Handle) (count : UInt32) (value : Value Handle) :
    (fillCell object array count value).Keeps
      (Touching fun handle => handle = object ∨ handle = array) := by
  refine keeps_bind (touches_of_fewer (touches_setCell ..) .inr) fun _ => ?_
  split
  · exact keeps_bind (touches_of_fewer (touches_set ..) .inl) fun _ => keeps_pure _
  · exact keeps_fail _

theorem leaves_storeElement (sound : heap.Sound) (object array : Handle) (count : UInt32)
    (value : Value Handle) : Leaves (fun handle => handle = object ∨ handle = array) heap
      (storeElement object array count value) := by
  refine Leaves.look_bind sound fun capacity _ => ?_
  split
  · have grown := leaves_growRecord sound array (allows_grownCapacity capacity)
    exact (grown.mono .inr).bind fun _ _ _ _ moved _ => moved.leaves (touches_fillCell ..)
  · exact sound.leaves (touches_fillCell ..)

theorem leaves_pushElement (sound : heap.Sound) (object : Handle) (value : Value Handle) :
    Leaves (fun handle => handle = object ∨ heap.HasElements object handle ∨ heap.Dead handle) heap
      (pushElement object value) := by
  rw [pushElement_eq]
  refine Leaves.look_bind sound fun count _ => Leaves.look_bind sound fun attached found => ?_
  split
  · refine ((leaves_attachElements sound object).mono (Or.imp_right .inr)).bind
      fun values after _ made sound' _ => ?_
    have dead := dead_of_attachElements (congrArg Outcome.answer made)
    exact (leaves_storeElement sound' object values count value).mono
      (Or.imp_right fun own => .inr (own ▸ dead))
  · exact (leaves_storeElement sound object attached count value).mono
      (Or.imp_right fun own => .inl (own ▸ found))

end HandleHeap.Heap
