import HandleHeap.Proofs.Element.Appending
import HandleHeap.Proofs.Heap.Fields
import HandleHeap.Proofs.Record.Canonical

/-!
# What is stored is read

A slot or an element that was stored is read back as it was, whatever was in its cell before. For
slots this is so in any heap. An element is found through the fields of its object, so there the
records have to be apart.

* `readCell_patchCell`: a cell of any record, in any heap.
* `exists_cell_setElement`, `Sound.elementStorage_setElement`: an element that was replaced, and the
  way to it.
* `Stored.answer_tryElement`: an element that was pushed.
* `stored_read_back`: how values and slots are stored, and what is read after they were.
-/

namespace HandleHeap.Heap

open HandleHeap.Action

variable {heap : Heap}

/-! ## 1. Cells -/

section Cell

variable {α : Type} (codec : Codec α) (handle : Handle) (kind : RecordKind) (index : UInt32)

/-- Stores something in a cell of a record. -/
def patchCell (x : α) : HeapAction Unit := do
  let block ← look (·.record handle kind)
  let start ← look fun _ => Report.ofExcept (cell block.len index codec.size)
  patch block start (codec.encode x)

/-- What is in a cell of a record. -/
def readCell (heap : Heap) : Report Stop α := do
  let block ← heap.record handle kind
  let start ← Report.ofExcept (cell block.len index codec.size)
  let bytes ← heap.slice block start codec.size
  return codec.decode bytes

section Found

variable {codec handle kind index} {block : Block} {start : Nat}
  (found : (heap.record handle kind).answer = .ok block)
  (place : cell block.len index codec.size = .ok start)

include found place

omit found in
theorem cell_eq_pure : (Report.ofExcept (cell block.len index codec.size) : Report Stop Nat) =
    pure start := by
  rw [place]
  rfl

/-- A cell is stored at its address. -/
theorem patchCell_eq (x : α) : patchCell codec handle kind index x heap =
    ⟨.ok (), heap.stored (block.offset + start) (codec.encode x), []⟩ := by
  have inside := cell_eq_ok place
  have length := codec.length_encode x
  have whole : (codec.encode x).take (block.len - start) = codec.encode x := by
    rw [List.take_of_length_le]
    omega
  rw [patchCell, look_bind_of_pure (Heap.record · handle kind) (record_eq_pure found),
    look_bind_of_pure (fun _ => Report.ofExcept (cell block.len index codec.size))
      (cell_eq_pure place), patch, if_pos (by omega)]
  simp only [changeArena, Arena.overwrite, if_pos (held_of_record found), whole]
  rfl

/-- A cell is read at its address. -/
theorem readCell_eq : readCell codec handle kind index heap =
    pure (codec.decode (heap.arena.memory.read (block.offset + start) codec.size)) := by
  rw [readCell, record_eq_pure found, Report.pure_bind, cell_eq_pure place, Report.pure_bind, slice,
    if_pos (cell_eq_ok place)]
  rfl

end Found

/-- What answers has found its cell. -/
theorem cell_of_patchCell {x : α}
    (done : (patchCell codec handle kind index x heap).answer = .ok ()) :
    ∃ block start, (heap.record handle kind).answer = .ok block ∧
      cell block.len index codec.size = .ok start := by
  obtain ⟨block, found, rest⟩ := Action.bind_eq_ok done
  obtain ⟨start, place, -⟩ := Action.bind_eq_ok rest
  exact ⟨block, start, found, place⟩

/-- What was stored in a cell is read. -/
theorem readCell_patchCell {x : α}
    (done : (patchCell codec handle kind index x heap).answer = .ok ()) :
    readCell codec handle kind index (patchCell codec handle kind index x heap).state = pure x := by
  obtain ⟨block, start, found, place⟩ := cell_of_patchCell codec handle kind index done
  have found' : ((heap.stored (block.offset + start) (codec.encode x)).record handle kind).answer =
      .ok block := found
  have same := Memory.read_write_same heap.arena.memory (block.offset + start) (codec.encode x)
  rw [codec.length_encode] at same
  rw [patchCell_eq found place, readCell_eq found' place]
  exact congrArg pure ((congrArg codec.decode same).trans (codec.decode_encode x))

end Cell

/-! ## 2. Elements -/

section Elements

variable {object : Handle} {index : UInt32} {value : Value Handle}

/-- The bytes of a record that is found. -/
theorem contents_of_record {handle : Handle} {kind : RecordKind} {block : Block}
    (found : (heap.record handle kind).answer = .ok block) :
    heap.view.contents handle kind = .ok (heap.arena.memory.read block.offset block.len) := by
  obtain ⟨placement, known, -, ofKind⟩ := record_eq_ok found
  have live : heap.kind? handle = some kind := by
    rw [kind?, known, ← ofKind]
    rfl
  rw [contents_of_kind? live, bytes?_of_record found]
  rfl

/-- The element array is what the object's field names, where its count covers the index. -/
theorem Sound.elementStorage_covered (sound : heap.Sound) {record : List UInt8}
    (known : heap.view.contents object .object = .ok record)
    (covered : index < ObjectField.arrayCount.read record) :
    heap.elementStorage object index = pure (ObjectField.arrayValues.read record) := by
  have known : heap.view.contents object Layout.object.kind = .ok record := known
  rw [elementStorage, sound.tryGet_eq_pure known, Report.pure_bind,
    if_neg (UInt32.not_le.mpr covered), sound.tryGet_eq_pure known]

theorem Sound.covered_of_elementStorage (sound : heap.Sound) {array : Handle}
    (found : (heap.elementStorage object index).answer = .ok array) :
    ∃ record, heap.view.contents object .object = .ok record ∧
      index < ObjectField.arrayCount.read record ∧ ObjectField.arrayValues.read record = array := by
  cases known : heap.view.contents object Layout.object.kind with
  | error stop =>
    obtain ⟨error, events, rfl, refused⟩ := tryGet_eq_error known ObjectField.arrayCount
    rw [elementStorage, refused] at found
    cases found
  | ok record =>
    rw [elementStorage, sound.tryGet_eq_pure known, Report.pure_bind] at found
    split at found
    · cases found
    · next covered =>
      rw [sound.tryGet_eq_pure known] at found
      exact ⟨record, known, UInt32.not_le.mp covered, Except.ok.inj found⟩

/-- An element that was replaced is in its cell, in any heap. -/
theorem exists_cell_setElement (done : (setElement object index value heap).answer = .ok ()) :
    ∃ array, (heap.elementStorage object index).answer = .ok array ∧
      readCell Value.codec array .elementArray index (setElement object index value heap).state =
        pure value := by
  obtain ⟨array, storage, rest⟩ := Action.bind_eq_ok done
  have storage : (heap.elementStorage object index).answer = .ok array := storage
  have same : (setElement object index value heap).state =
      (patchCell Value.codec array .elementArray index value heap).state := by
    rw [setElement, state_look_bind, storage]
    rfl
  refine ⟨array, storage, ?_⟩
  rw [same]
  exact readCell_patchCell Value.codec array .elementArray index rest

/-- So it is read, as long as the object leads to its cell. -/
theorem answer_tryElement_of_cell {array : Handle}
    (storage : (heap.elementStorage object index).answer = .ok array)
    (cell : readCell Value.codec array .elementArray index heap = pure value) :
    (heap.tryElement object index).answer = .ok value := by
  refine (Report.answer_bind_of_ok storage).trans ?_
  exact congrArg Report.answer cell

/-- The object is not its array, so its own record stays. -/
theorem Sound.elementStorage_setElement (sound : heap.Sound) {array : Handle}
    (done : (setElement object index value heap).answer = .ok ())
    (storage : (heap.elementStorage object index).answer = .ok array) :
    ((setElement object index value heap).state.elementStorage object index).answer = .ok array := by
  obtain ⟨array', storage', rest⟩ := Action.bind_eq_ok done
  cases storage.symm.trans storage'
  obtain ⟨record, known, covered, rfl⟩ := sound.covered_of_elementStorage storage
  obtain ⟨block, start, found, place⟩ := cell_of_patchCell Value.codec _ _ _ rest
  have elements := contents_of_record found
  have inside : Heap.cell (heap.arena.memory.read block.offset block.len).length index Value.size =
      .ok start := by rwa [Memory.length_read]
  obtain ⟨after, run, sound', view⟩ := sound.setCell_eq elements inside value
  have own : after.view.contents object .object = .ok record := by
    rw [view, View.contents_withBytes_ne _ (ne_of_contents known elements), known]
  rw [setElement, look_bind_of_pure (Heap.elementStorage · object index)
    (sound.elementStorage_covered known covered), run]
  exact congrArg Report.answer (sound'.elementStorage_covered own covered)

/-- An element that was pushed is read. -/
theorem Stored.answer_tryElement {array : Handle} {record bytes : List UInt8}
    (stored : Stored object array record bytes index value heap)
    (whole : record.length = Layout.object.size)
    (points : ObjectField.arrayValues.read record = array) :
    (heap.tryElement object index).answer = .ok value := by
  obtain ⟨longer, elements, room, -⟩ := stored.elements
  have one : (index + 1).toNat = index.toNat + 1 := by
    rw [UInt32.toNat_add]
    exact Nat.mod_eq_of_lt stored.few
  have covered : index < ObjectField.arrayCount.read
      (ObjectField.arrayCount.write (index + 1) record) := by
    rw [Field.read_write _ _ whole, UInt32.lt_iff_toNat_lt, one]
    exact Nat.lt_succ_self _
  have array' : ObjectField.arrayValues.read (ObjectField.arrayCount.write (index + 1) record) =
      array := by rw [Field.read_write_apart _ _ (by decide), points]
  have inside : Heap.cell (Value.codec.write longer index.toNat value).length index Value.size =
      .ok (index.toNat * Value.size) := by
    refine if_pos ((Nat.le_div_iff_mul_le (by decide)).mpr ?_)
    rw [Codec.write, length_splice, Nat.succ_mul]
    exact room
  have answer := stored.sound.answer_tryElement_covered stored.record covered
  rw [array', View.cell, elements] at answer
  refine answer.trans ?_
  show Except.map Value.decode ((Heap.cell _ index Value.size).bind _) = _
  rw [inside]
  exact congrArg Except.ok (Value.codec.read_write value room)

end Elements

/-! ## 3. Storing and reading -/

/-- Slots and values are read back bit for bit whatever was in their bytes before, all bytes are
read as something that is read back again, and those that are kept are the canonical ones. A slot
that was set, an element that was set and an element that was pushed are then read as they are. For
elements the object has to lead to its array still, as it does where records are apart. -/
theorem stored_read_back :
    Faithful Slot.size Slot.encode Slot.decode .empty Slot.Canonical ∧
    Faithful Value.size Value.encode Value.decode .undefined Value.Canonical ∧
    (∀ (heap : Heap) (storage : Handle) (index : UInt32) (slot : Slot Handle),
      (setSlot storage index slot heap).answer = .ok () →
      let after := (setSlot storage index slot heap).state
      after.trySlot storage index = pure slot ∧ after.slot storage index = pure slot) ∧
    (∀ (heap : Heap) (object : Handle) (index : UInt32) (value : Value Handle),
      (setElement object index value heap).answer = .ok () →
      let after := (setElement object index value heap).state
      ∃ array, (heap.elementStorage object index).answer = .ok array ∧
        ((after.elementStorage object index).answer = .ok array →
          (after.tryElement object index).answer = .ok value)) ∧
    ∀ {config : Config} {requested : Nat} {heap : Heap}, Reached config requested heap →
      requested < sizeLimit → ∀ (object : Handle) (index : UInt32) (value : Value Handle),
      ((setElement object index value heap).answer = .ok () →
        let after := (setElement object index value heap).state
        (after.tryElement object index).answer = .ok value ∧
          (after.element object index).answer = .ok value) ∧
      ((pushElement object value heap).answer = .ok index →
        let after := (pushElement object value heap).state
        (after.tryElement object index).answer = .ok value ∧
          (after.element object index).answer = .ok value) := by
  refine ⟨Slot.faithful, Value.faithful, fun heap storage index slot done => ?_,
    fun heap object index value done => ?_, fun reached few object index value => ?_⟩
  · have read : (setSlot storage index slot heap).state.trySlot storage index = pure slot :=
      readCell_patchCell Slot.codec storage .propertyArray index done
    refine ⟨read, ?_⟩
    rw [Heap.slot, read]
    rfl
  · obtain ⟨array, storage, cell⟩ := exists_cell_setElement done
    exact ⟨array, storage, fun still => answer_tryElement_of_cell still cell⟩
  · obtain ⟨sound, -⟩ := (tracked_of_reached reached).sound few
    refine ⟨fun done => ?_, fun pushed => ?_⟩
    · obtain ⟨array, storage, cell⟩ := exists_cell_setElement done
      have read := answer_tryElement_of_cell (sound.elementStorage_setElement done storage) cell
      exact ⟨read, answer_element_of_ok read⟩
    · obtain ⟨array, old, record, bytes, -, whole, points, -, -, -, stored⟩ :=
        sound.pushElement_stored (accounted_of_reached reached) pushed
      have read := stored.answer_tryElement whole points
      exact ⟨read, answer_element_of_ok read⟩

/-- An accessor, a float that is no number and a negative integer. -/
theorem stored_read_back_small :
    let heap := newSmall.run smallSession
    Reached { arenaCapacity := 1024 } (runCounting 0 newSmall smallSession).1 heap ∧
      (runCounting 0 newSmall smallSession).1 < sizeLimit ∧
      (setSlot ⟨3, 0⟩ 1 (.accessor ⟨1, 0⟩ ⟨2, 7⟩) heap).state.slot ⟨3, 0⟩ 1 =
        pure (.accessor ⟨1, 0⟩ ⟨2, 7⟩) ∧
      ((setElement ⟨2, 0⟩ 0 (.float 0x7ff8000000000001) heap).state.element ⟨2, 0⟩ 0).answer =
        .ok (.float 0x7ff8000000000001) ∧
      ((pushElement ⟨2, 0⟩ (.int (-1)) heap).state.element ⟨2, 0⟩ 1).answer =
        .ok (.int (-1)) := by
  intro heap
  have run : (runCounting 0 newSmall smallSession).1 < sizeLimit ∧
      (setSlot ⟨3, 0⟩ 1 (.accessor ⟨1, 0⟩ ⟨2, 7⟩) heap).answer = .ok () ∧
      (setElement ⟨2, 0⟩ 0 (.float 0x7ff8000000000001) heap).answer = .ok () ∧
      (pushElement ⟨2, 0⟩ (.int (-1)) heap).answer = .ok 1 := by decide +kernel
  obtain ⟨few, setsSlot, setsElement, pushes⟩ := run
  obtain ⟨-, -, slots, -, elements⟩ := stored_read_back
  have elements := elements reached_smallSession few ⟨2, 0⟩
  exact ⟨reached_smallSession, few, (slots heap ⟨3, 0⟩ 1 _ setsSlot).2,
    ((elements 0 _).1 setsElement).2, ((elements 1 _).2 pushes).2⟩

end HandleHeap.Heap
