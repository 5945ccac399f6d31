import HandleHeap.Proofs.Heap.Objects

/-!
# A property array as a list of slots

Every cell of a property array is a slot, so the array is a list as long as its capacity.

* `Slots`: what the bytes of an array say of its list. Zeros are empty slots, and bytes that are
  moved to a longer block are followed by empty slots.
* `Sound.trySlot_eq`, `Sound.slotCapacity_eq`: what is read of the array is read of the list.
* `Sound.perform_slotWrite`: the operations that write a slot replace it where the list has one, by
  what they make of the slot that was there.
* `Sound.growProperties_cases`: growing appends empty slots, or is refused and the list stays.
-/

namespace HandleHeap

open HandleHeap.Action

/-! ## 1. Cells -/

/-- The cells of some bytes hold the slots of a list, one after the other. -/
structure Slots (bytes : List UInt8) (slots : List (Slot Handle)) : Prop where
  length : bytes.length = slots.length * Slot.size
  read : ∀ {i slot}, slots[i]? = some slot → Slot.codec.read bytes i = slot

namespace Slots

variable {bytes : List UInt8} {slots : List (Slot Handle)}

theorem zeros (n : Nat) : Slots (List.replicate (n * Slot.size) 0) (List.replicate n .empty) := by
  refine ⟨by simp, fun {i slot} known => ?_⟩
  rw [List.getElem?_replicate] at known
  split at known
  · next inside =>
    cases known
    exact Slot.codec.read_zeros (cell_fits inside)
  · cases known

theorem modify (holds : Slots bytes slots) {i : Nat} {old : Slot Handle}
    (known : slots[i]? = some old) (content : Slot Handle → Slot Handle) :
    Slots (Slot.codec.write bytes i (content old)) (slots.modify i content) := by
  have inside := (List.getElem?_eq_some_iff.mp known).1
  have room : i * Slot.codec.size + Slot.codec.size ≤ bytes.length := by
    rw [holds.length]
    exact cell_fits inside
  refine ⟨?_, fun {j slot} stored => ?_⟩
  · rw [Codec.write, length_splice, List.length_modify, holds.length]
  · by_cases own : i = j
    · subst own
      rw [List.getElem?_modify_eq, known] at stored
      cases stored
      exact Slot.codec.read_write _ room
    · rw [List.getElem?_modify_ne _ _ own] at stored
      exact (Slot.codec.read_write_of_ne _ (Ne.symm own)).trans (holds.read stored)

theorem fitted (holds : Slots bytes slots) {n : Nat} (longer : slots.length ≤ n) :
    Slots (fitted bytes (n * Slot.size))
      (slots ++ List.replicate (n - slots.length) .empty) := by
  have total : (slots ++ List.replicate (n - slots.length) Slot.empty).length = n := by
    rw [List.length_append, List.length_replicate]
    exact Nat.add_sub_cancel' longer
  refine ⟨by rw [length_fitted, total], fun {i slot} stored => ?_⟩
  have inside := total ▸ (List.getElem?_eq_some_iff.mp stored).1
  have room : i * Slot.codec.size + Slot.codec.size ≤ n * Slot.size := cell_fits inside
  rw [List.getElem?_append] at stored
  split at stored
  · next before =>
    have known : i * Slot.codec.size + Slot.codec.size ≤ bytes.length := by
      rw [holds.length]
      exact cell_fits before
    exact (Slot.codec.read_fitted room known).trans (holds.read stored)
  · next beyond =>
    have past : bytes.length ≤ i * Slot.codec.size := by
      rw [holds.length]
      exact Nat.mul_le_mul_right _ (Nat.le_of_not_lt beyond)
    rw [List.getElem?_replicate] at stored
    split at stored <;> cases stored
    exact Slot.codec.read_fitted_beyond room past

end Slots

/-! ## 2. The list of an array -/

/-- A property array holds the slots of a list. -/
def View.Slots (view : View) (storage : Handle) (slots : List (Slot Handle)) : Prop :=
  ∃ bytes, view.contents storage .propertyArray = .ok bytes ∧ HandleHeap.Slots bytes slots

theorem View.Slots.of_rests {before after : View} {storage : Handle} {slots : List (Slot Handle)}
    (holds : before.Slots storage slots) (rests : Rests storage before after) :
    after.Slots storage slots := by
  obtain ⟨bytes, known, cells⟩ := holds
  exact ⟨bytes, (rests.contents _).trans known, cells⟩

/-- The slot that an operation writes, and what it makes of the slot that was there. A getter or a
setter is put beside the other side of an accessor, and beside null otherwise. -/
def Operation.slotWrite :
    Operation Handle → Option (Handle × UInt32 × (Slot Handle → Slot Handle))
  | setSlot storage index content => some (storage, index, fun _ => content)
  | setSlotValue storage index value => some (storage, index, fun _ => .value value)
  | setSlotGetter storage index getter =>
    some (storage, index, fun old => .accessor getter old.setter)
  | setSlotSetter storage index setter =>
    some (storage, index, fun old => .accessor old.getter setter)
  | setSlotVarRef storage index target => some (storage, index, fun _ => .varRef target)
  | _ => none

namespace Heap

variable {heap : Heap} {storage : Handle} {slots : List (Slot Handle)}

theorem kind?_of_slots (holds : heap.view.Slots storage slots) :
    heap.kind? storage = some .propertyArray := by
  obtain ⟨bytes, known, -⟩ := holds
  exact (contents_eq_ok known).1

/-- The slots of a property array can be counted in 32 bits. -/
theorem Sound.length_slots (sound : heap.Sound) (holds : heap.view.Slots storage slots) :
    slots.length < 2 ^ 32 := by
  obtain ⟨bytes, known, cells⟩ := holds
  obtain ⟨count, -, few, length⟩ := sound.allows_contents known
  have same : slots.length = count :=
    Nat.eq_of_mul_eq_mul_right (by decide : 0 < Slot.size) (cells.length.symm.trans length)
  rwa [same]

theorem cell_of_slots {bytes : List UInt8} (cells : HandleHeap.Slots bytes slots) (index : UInt32) :
    Heap.cell bytes.length index Slot.size =
      if index.toNat < slots.length then .ok (index.toNat * Slot.size)
      else .error (.refused (.indexOutOfBounds index (UInt32.ofNat slots.length))) := by
  have count : bytes.length / Slot.size = slots.length := by
    rw [cells.length]
    exact Nat.mul_div_cancel _ (by decide)
  simp only [Heap.cell, count]

/-! ## 3. Reading -/

theorem Sound.slotCapacity_eq (sound : heap.Sound) (holds : heap.view.Slots storage slots) :
    heap.slotCapacity storage = pure (UInt32.ofNat slots.length) := by
  obtain ⟨bytes, known, cells⟩ := holds
  obtain ⟨placement, -, -, found, rfl⟩ := sound.record_eq_pure known
  have count : placement.block.len / Slot.size = slots.length := by
    rw [← Memory.length_read heap.arena.memory placement.block.offset placement.block.len,
      cells.length]
    exact Nat.mul_div_cancel _ (by decide)
  rw [slotCapacity, found, Report.pure_bind, count]
  rfl

/-- A slot is read where the list has one. -/
theorem Sound.trySlot_eq (sound : heap.Sound) (holds : heap.view.Slots storage slots)
    (index : UInt32) : heap.trySlot storage index =
      match slots[index.toNat]? with
      | some slot => pure slot
      | none => Report.refuse (.indexOutOfBounds index (UInt32.ofNat slots.length)) := by
  obtain ⟨bytes, known, cells⟩ := holds
  obtain ⟨placement, -, -, found, rfl⟩ := sound.record_eq_pure known
  have cell := cell_of_slots cells index
  rw [Memory.length_read] at cell
  rw [trySlot, found, Report.pure_bind, cell]
  by_cases inside : index.toNat < slots.length
  · have fits : index.toNat * Slot.size + Slot.size ≤ placement.block.len := by
      rw [← Memory.length_read heap.arena.memory placement.block.offset placement.block.len,
      cells.length]
      exact cell_fits inside
    rw [if_pos inside, List.getElem?_eq_getElem inside]
    show (heap.slice placement.block _ _ >>= _ : Report Stop _) = _
    rw [slice_eq_pure fits, Report.pure_bind]
    exact congrArg pure (cells.read (List.getElem?_eq_getElem inside))
  · rw [if_neg inside, List.getElem?_eq_none (Nat.le_of_not_lt inside)]
    rfl

/-- Beyond its end an array reads as empty slots. -/
theorem Sound.answer_slot (sound : heap.Sound) (holds : heap.view.Slots storage slots)
    (index : UInt32) :
    (heap.slot storage index).answer = .ok (slots[index.toNat]?.getD .empty) := by
  rw [slot, sound.trySlot_eq holds]
  cases slots[index.toNat]? <;> rfl

/-! ## 4. Writing a slot -/

/-- A slot is replaced where the list has one. -/
theorem Sound.setSlot_eq (sound : heap.Sound) (holds : heap.view.Slots storage slots)
    {index : UInt32} {old : Slot Handle} (known : slots[index.toNat]? = some old)
    (content : Slot Handle → Slot Handle) :
    ∃ after, setSlot storage index (content old) heap = ⟨.ok (), after, []⟩ ∧
      after.view.Slots storage (slots.modify index.toNat content) := by
  obtain ⟨bytes, stored, cells⟩ := holds
  have inside := (List.getElem?_eq_some_iff.mp known).1
  have edited : (heap.view.contents storage .propertyArray >>= fun bytes =>
      (Heap.cell bytes.length index Slot.size).map fun start =>
        splice bytes start (content old).encode) =
      .ok (Slot.codec.write bytes index.toNat (content old)) := by
    rw [stored]
    show (Heap.cell bytes.length index Slot.size).map _ = _
    rw [cell_of_slots cells, if_pos inside]
    rfl
  obtain ⟨after, run, rewrites⟩ :=
    (edits_setSlot storage index (content old)).done sound.toSeparated edited
  refine ⟨after, run, _, ?_, cells.modify known content⟩
  rw [rewrites.view]
  exact View.contents_withBytes_self _ stored _

/-- A slot that the list has not is refused. -/
theorem Sound.setSlot_beyond (sound : heap.Sound) (holds : heap.view.Slots storage slots)
    {index : UInt32} (beyond : slots.length ≤ index.toNat) (content : Slot Handle) :
    setSlot storage index content heap = ⟨.error (.refused
      (.indexOutOfBounds index (UInt32.ofNat slots.length))), heap, []⟩ := by
  obtain ⟨bytes, known, cells⟩ := holds
  obtain ⟨placement, -, -, found, rfl⟩ := sound.record_eq_pure known
  have cell := cell_of_slots cells index
  rw [Memory.length_read, if_neg (Nat.not_lt.mpr beyond)] at cell
  rw [setSlot, look_bind_of_pure (Heap.record · storage .propertyArray) found, cell]
  rfl

/-- Writing a slot replaces it where the list has one, and is refused elsewhere. -/
theorem Sound.perform_slotWrite (sound : heap.Sound) (holds : heap.view.Slots storage slots)
    {operation : Operation Handle} {index : UInt32} {content : Slot Handle → Slot Handle}
    (writes : operation.slotWrite = some (storage, index, content)) :
    (index.toNat < slots.length ∧ ∃ after, operation.perform heap = ⟨.ok .done, after, []⟩ ∧
        after.view.Slots storage (slots.modify index.toNat content)) ∨
      (slots.length ≤ index.toNat ∧ operation.perform heap = ⟨.error (.refused
        (.indexOutOfBounds index (UInt32.ofNat slots.length))), heap, []⟩) := by
  -- A write is done with what it makes of the slot that is there, and refused as a read is.
  suffices core : ∃ action, operation.perform = Operation.doing action ∧
      (∀ old, slots[index.toNat]? = some old →
        action heap = setSlot storage index (content old) heap) ∧
      (slots.length ≤ index.toNat → action heap = ⟨.error (.refused
        (.indexOutOfBounds index (UInt32.ofNat slots.length))), heap, []⟩) by
    obtain ⟨action, done, replaces, refuses⟩ := core
    rw [done]
    by_cases inside : index.toNat < slots.length
    · have known := List.getElem?_eq_getElem inside
      obtain ⟨after, run, holds'⟩ := sound.setSlot_eq holds known content
      refine .inl ⟨inside, after, ?_, holds'⟩
      rw [Operation.doing, bind_apply_of_ok ((replaces _ known).trans run)]
      rfl
    · have beyond := Nat.le_of_not_lt inside
      exact .inr ⟨beyond, bind_apply_of_error (refuses beyond)⟩
  have reads := sound.trySlot_eq holds
  have present {old : Slot Handle} (known : slots[index.toNat]? = some old)
      (next : Slot Handle → HeapAction Unit) :
      (look (·.trySlot storage index) >>= next) heap = next old heap :=
    look_bind_of_pure (Heap.trySlot · storage index) (by rw [reads, known])
  have absent (beyond : slots.length ≤ index.toNat) (next : Slot Handle → HeapAction Unit) :
      (look (·.trySlot storage index) >>= next) heap = ⟨.error (.refused
        (.indexOutOfBounds index (UInt32.ofNat slots.length))), heap, []⟩ :=
    look_bind_of_error (Heap.trySlot · storage index)
      (by rw [reads, List.getElem?_eq_none beyond]; rfl)
  cases operation with
  | setSlot target i new =>
    cases writes
    exact ⟨_, rfl, fun _ _ => rfl, fun beyond => sound.setSlot_beyond holds beyond _⟩
  | setSlotValue target i value =>
    cases writes
    exact ⟨_, rfl, fun _ _ => rfl, fun beyond => sound.setSlot_beyond holds beyond _⟩
  | setSlotVarRef target i reference =>
    cases writes
    exact ⟨_, rfl, fun _ _ => rfl, fun beyond => sound.setSlot_beyond holds beyond _⟩
  | setSlotGetter target i getter =>
    cases writes
    exact ⟨_, rfl, fun _ known => present known _, fun beyond => absent beyond _⟩
  | setSlotSetter target i setter =>
    cases writes
    exact ⟨_, rfl, fun _ known => present known _, fun beyond => absent beyond _⟩
  | _ => cases writes

/-! ## 5. Growing -/

/-- What growing a property array comes to. -/
inductive Lengthened (storage : Handle) (slots : List (Slot Handle)) (capacity : Nat)
    (before after : Heap) : Except Stop Unit → Prop
  | kept : capacity ≤ slots.length → after = before →
      Lengthened storage slots capacity before after (.ok ())
  | grown : slots.length < capacity → after.view.Slots storage
        (slots ++ List.replicate (capacity - slots.length) .empty) →
      Lengthened storage slots capacity before after (.ok ())
  | refused {cause : AllocError} : slots.length < capacity → after.view.Slots storage slots →
      Lengthened storage slots capacity before after (.error (.refused (.outOfMemory cause)))

/-- Growing appends empty slots up to the capacity, or is refused for lack of space. -/
theorem Sound.growProperties_cases (sound : heap.Sound) (holds : heap.view.Slots storage slots)
    (capacity : UInt32) :
    Lengthened storage slots capacity.toNat heap (growProperties storage capacity heap).state
      (growProperties storage capacity heap).answer := by
  have count : (UInt32.ofNat slots.length).toNat = slots.length :=
    UInt32.toNat_ofNat_of_lt' (sound.length_slots holds)
  have capacities := sound.slotCapacity_eq holds
  obtain ⟨bytes, known, cells⟩ := holds
  rw [growProperties, look_bind_of_pure (Heap.slotCapacity · storage) capacities]
  by_cases enough : capacity ≤ UInt32.ofNat slots.length
  · obtain ⟨placement, -, -, located⟩ := locate_eq_pure known
    rw [if_pos enough, look_bind_of_pure (Heap.locate · storage .propertyArray) located]
    exact .kept (count ▸ UInt32.le_iff_toNat_le.mp enough) rfl
  · have longer : slots.length < capacity.toNat :=
      count ▸ UInt32.lt_iff_toNat_lt.mp (UInt32.not_le.mp enough)
    have some : 0 < capacity.toNat * Slot.size :=
      Nat.mul_pos (Nat.zero_lt_of_lt longer) (by decide)
    rw [if_neg enough]
    have grown := sound.growRecord storage (allows_slots some)
    generalize (Heap.growRecord storage .propertyArray (capacity.toNat * Slot.size) heap).state =
      after, (Heap.growRecord storage .propertyArray (capacity.toNat * Slot.size) heap).answer =
      answer at grown ⊢
    cases grown with
    | missing none same =>
      rw [known] at none
      cases none
    | refused _ _ view => exact .refused longer ⟨bytes, by rw [view]; exact known, cells⟩
    | grown known' _ view _ =>
      cases known.symm.trans known'
      refine .grown longer ⟨_, ?_, cells.fitted (Nat.le_of_lt longer)⟩
      rw [view]
      exact View.contents_withBytes_self _
        (show (heap.asked _).contents _ _ = _ from known) _

end Heap

end HandleHeap
