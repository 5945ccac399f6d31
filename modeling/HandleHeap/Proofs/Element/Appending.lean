import HandleHeap.Proofs.Element.Refusal

/-!
# What a push leaves that answers an index

A push that is done has appended its value, whether it attached the element array, filled a cell of
the array as it is, or moved the array to a longer block first. It counts on from whatever the count
of the object is, also where that was written.

* `Sound.answer_element_of_array`: what is read at an index that the count of an object covers.
  A cell that the element array does not have reads as one that nothing was stored in.
* `Sound.storeElement_done`: the record and the element array after an element was stored.
* `push_appends`: the index is the old count, and the value is read there. The elements before it
  are read as before. Only a push that attaches the element array marks the object as a fast array:
  with an array that was attached by a write to its field, the mark stays as it was.
-/

namespace HandleHeap.Heap

open HandleHeap.Action

variable {heap : Heap} {object array : Handle} {record bytes : List UInt8}

/-! ## 1. Reading a cell -/

/-- A cell beyond the end reads as one that nothing was stored in. -/
theorem read_value_beyond {i : Nat} (beyond : bytes.length ≤ i * Value.size) :
    Value.codec.read bytes i = .undefined := by
  have none : window bytes (i * Value.size) Value.size = [] := by
    rw [window, List.drop_eq_nil_of_le beyond, List.take_nil]
  exact congrArg Value.decode none

theorem read_value_zeros (n i : Nat) :
    Value.codec.read (List.replicate (n * Value.size) 0) i = .undefined := by
  rcases Nat.lt_or_ge i n with inside | beyond
  · exact Value.codec.read_zeros (cell_fits inside)
  · refine read_value_beyond ?_
    rw [List.length_replicate]
    exact Nat.mul_le_mul_right _ beyond

/-- A cell that can be read is read. -/
theorem answer_element_of_ok {index : UInt32} {value : Value Handle}
    (read : (heap.tryElement object index).answer = .ok value) :
    (heap.element object index).answer = .ok value := by
  rw [element, Report.withDefault, read]
  exact read

theorem answer_element_of_refused {index : UInt32} {error : HeapError}
    (refused : (heap.tryElement object index).answer = .error (.refused error)) :
    (heap.element object index).answer = .ok .undefined := by
  rw [element, Report.withDefault, refused]

section Record

variable (known : heap.view.contents object .object = .ok record) {index : UInt32}
  (covered : index < ObjectField.arrayCount.read record)

include known covered

/-- Where the count of an object covers an index, the cell is looked up in its element array. -/
theorem Sound.answer_tryElement_covered (sound : heap.Sound) :
    (heap.tryElement object index).answer =
      (heap.view.cell (ObjectField.arrayValues.read record) .elementArray index Value.size).map
        Value.decode := by
  have known : heap.view.contents object Layout.object.kind = .ok record := known
  rw [tryElement, elementStorage, sound.tryGet_eq_pure known, Report.pure_bind,
    if_neg (UInt32.not_le.mpr covered), sound.tryGet_eq_pure known, Report.pure_bind]
  exact sound.answer_cell ..

/-- A cell that the element array does not have reads as one that nothing was stored in. -/
theorem Sound.answer_element_of_array (sound : heap.Sound)
    (elements : heap.view.contents (ObjectField.arrayValues.read record) .elementArray =
      .ok bytes) :
    (heap.element object index).answer = .ok (Value.codec.read bytes index.toNat) := by
  have answer := sound.answer_tryElement_covered known covered
  rw [View.cell, elements] at answer
  rcases Nat.lt_or_ge index.toNat (bytes.length / Value.size) with inside | beyond
  · have start : Heap.cell bytes.length index Value.size = .ok (index.toNat * Value.size) :=
      if_pos inside
    refine answer_element_of_ok (answer.trans ?_)
    show Except.map Value.decode ((Heap.cell bytes.length index Value.size).bind _) = _
    rw [start]
    rfl
  · have start : Heap.cell bytes.length index Value.size = .error (.refused
        (.indexOutOfBounds index (UInt32.ofNat (bytes.length / Value.size)))) :=
      if_neg (Nat.not_lt.mpr beyond)
    have refused : (heap.tryElement object index).answer = .error (.refused
        (.indexOutOfBounds index (UInt32.ofNat (bytes.length / Value.size)))) := by
      rw [answer]
      show Except.map Value.decode ((Heap.cell bytes.length index Value.size).bind _) = _
      rw [start]
      rfl
    have last : bytes.length ≤ index.toNat * Value.size := by
      rw [← (sound.cells_of_array elements).2.2]
      exact Nat.mul_le_mul_right _ beyond
    rw [read_value_beyond last]
    exact answer_element_of_refused refused

theorem Sound.answer_element_of_null (sound : heap.Sound)
    (null : (ObjectField.arrayValues.read record).isNull = true) :
    (heap.element object index).answer = .ok .undefined := by
  have answer := sound.answer_tryElement_covered known covered
  rw [View.cell] at answer
  cases elements : heap.view.contents (ObjectField.arrayValues.read record) .elementArray with
  | ok bytes =>
    rw [ne_null_of_kind? (contents_eq_ok elements).1] at null
    cases null
  | error stop =>
    obtain ⟨error, events, rfl, -⟩ := record_eq_error elements
    rw [elements] at answer
    exact answer_element_of_refused answer

end Record

/-! ## 2. Storing -/

/-- A longer array reads as before, and as undefined in the cells that it got. -/
theorem read_value_fitted {cells n i : Nat} (whole : cells * Value.size = bytes.length)
    (longer : cells ≤ n) : Value.codec.read (fitted bytes (n * Value.size)) i =
      Value.codec.read bytes i := by
  rcases Nat.lt_or_ge i cells with inside | beyond
  · exact Value.codec.read_fitted (cell_fits (Nat.lt_of_lt_of_le inside longer))
      (whole ▸ cell_fits inside)
  · have last : bytes.length ≤ i * Value.size := whole ▸ Nat.mul_le_mul_right _ beyond
    rw [read_value_beyond last]
    rcases Nat.lt_or_ge i n with room | past
    · exact Value.codec.read_fitted_beyond (cell_fits room) last
    · refine read_value_beyond ?_
      rw [length_fitted]
      exact Nat.mul_le_mul_right _ past

/-- An object with its element array after an element was stored in the cell after the elements. -/
structure Stored (object array : Handle) (record bytes : List UInt8) (count : UInt32)
    (value : Value Handle) (after : Heap) : Prop where
  sound : after.Sound
  few : count.toNat + 1 < 2 ^ 32
  record : after.view.contents object .object =
    .ok (ObjectField.arrayCount.write (count + 1) record)
  /-- The array as it was, or a longer one that reads as it did. -/
  elements : ∃ longer, after.view.contents array .elementArray =
      .ok (Value.codec.write longer count.toNat value) ∧
    count.toNat * Value.size + Value.size ≤ longer.length ∧
    ∀ i, Value.codec.read longer i = Value.codec.read bytes i

theorem stored_of_append {before : View} {after : Heap} {longer : List UInt8} {count : UInt32}
    {value : Value Handle} (sound : after.Sound)
    (view : after.view = before.append object array record longer count value)
    (known : before.contents object .object = .ok record) (differ : object ≠ array)
    (elements : ∃ bytes, before.contents array .elementArray = .ok bytes)
    (room : count.toNat * Value.size + Value.size ≤ longer.length)
    (few : count.toNat + 1 < 2 ^ 32)
    (same : ∀ i, Value.codec.read longer i = Value.codec.read bytes i) :
    Stored object array record bytes count value after := by
  obtain ⟨old, elements⟩ := elements
  refine ⟨sound, few, ?_, longer, ?_, room, same⟩
  · have own := View.contents_withBytes_ne before differ
      (some (splice longer (count.toNat * Value.size) value.encode)) .object
    rw [view]
    exact View.contents_withBytes_self _ (own.trans known) _
  · rw [view, View.append, View.contents_withBytes_ne _ (Ne.symm differ),
      View.contents_withBytes_self _ elements]
    rfl

theorem Sound.storeElement_done (sound : heap.Sound)
    (known : heap.view.contents object .object = .ok record)
    (points : ObjectField.arrayValues.read record = array)
    (elements : heap.view.contents array .elementArray = .ok bytes) {count index : UInt32}
    {value : Value Handle}
    (done : (Heap.storeElement object array count value heap).answer = .ok index) :
    index = count ∧ Stored object array record bytes count value
      (Heap.storeElement object array count value heap).state := by
  obtain ⟨few, size, whole⟩ := sound.cells_of_array elements
  have differ := ne_of_contents known elements
  have storing := sound.storeElement known points elements count value
  generalize UInt32.ofNat (bytes.length / Value.size) = capacity at storing size
  rw [done] at storing
  rw [← size] at whole few
  cases storing with
  | stored inside sound' view =>
    have inside := UInt32.lt_iff_toNat_lt.mp inside
    exact ⟨rfl, stored_of_append sound' view known differ ⟨bytes, elements⟩
      (whole ▸ cell_fits inside) (Nat.lt_of_le_of_lt inside few) fun _ => rfl⟩
  | grown inside sound' view =>
    refine ⟨rfl, stored_of_append sound' view known differ ⟨bytes, elements⟩ ?_
      (Nat.lt_of_le_of_lt inside (grownCapacity_lt capacity)) fun _ =>
        read_value_fitted whole (le_grownCapacity capacity)⟩
    rw [length_fitted]
    exact cell_fits inside

/-! ## 3. Appending -/

/-- The value of an object is one more element, at an index that was its count. -/
structure Appended (object : Handle) (value : Value Handle) (index : UInt32) (before after : Heap) :
    Prop where
  counted : (before.get object ObjectField.arrayCount).answer = .ok index
  few : index.toNat + 1 < 2 ^ 32
  count : (after.get object ObjectField.arrayCount).answer = .ok (index + 1)
  last : (after.element object index).answer = .ok value
  earlier : ∀ other < index,
    (after.element object other).answer = (before.element object other).answer
  /-- The mark of an object that had no element array is set. -/
  mark : ∃ fast values, (before.get object ObjectField.fastArray).answer = .ok fast ∧
    (before.get object ObjectField.arrayValues).answer = .ok values ∧
    (after.get object ObjectField.fastArray).answer = .ok (values.isNull || fast)

theorem Sound.get_of_contents (sound : heap.Sound)
    (known : heap.view.contents object .object = .ok record) {scalar : Scalar}
    (field : Field .object scalar) :
    (heap.get object field).answer = .ok (field.read record) := by
  have known : heap.view.contents object Layout.object.kind = .ok record := known
  rw [sound.get_eq_pure known]
  rfl

/-- Storing appends, if the record stores the count and reads like the one from before the push
otherwise. -/
theorem Stored.appended {before after : Heap} {old : List UInt8} {count : UInt32}
    {value : Value Handle} (stored : Stored object array record bytes count value after)
    (sound : before.Sound) (known : before.view.contents object .object = .ok old)
    (whole : record.length = Layout.object.size)
    (points : ObjectField.arrayValues.read record = array)
    (counted : ObjectField.arrayCount.read old = count)
    (mark : ObjectField.fastArray.read record =
      ((ObjectField.arrayValues.read old).isNull || ObjectField.fastArray.read old))
    (earlier : ∀ other < count, (before.element object other).answer =
      .ok (Value.codec.read bytes other.toNat)) :
    Appended object value count before after := by
  obtain ⟨longer, elements, room, same⟩ := stored.elements
  have few := stored.few
  have one : (count + 1).toNat = count.toNat + 1 := by
    rw [UInt32.toNat_add]
    exact Nat.mod_eq_of_lt few
  have now : ObjectField.arrayCount.read (ObjectField.arrayCount.write (count + 1) record) =
      count + 1 := Field.read_write _ _ whole
  have array' : ObjectField.arrayValues.read (ObjectField.arrayCount.write (count + 1) record) =
      array := by rw [Field.read_write_apart _ _ (by decide), points]
  have read {other : UInt32} (within : other.toNat < count.toNat + 1) :
      (after.element object other).answer =
        .ok (Value.codec.read (Value.codec.write longer count.toNat value) other.toNat) := by
    refine stored.sound.answer_element_of_array stored.record ?_ ?_
    · rw [now, UInt32.lt_iff_toNat_lt, one]
      exact within
    · rw [array', elements]
  refine ⟨?_, few, ?_, ?_, fun other before => ?_, _, _, sound.get_of_contents known _,
    sound.get_of_contents known _, ?_⟩
  · rw [sound.get_of_contents known, counted]
  · rw [stored.sound.get_of_contents stored.record, now]
  · rw [read (Nat.lt_succ_self _), Value.codec.read_write _ room]
  · have less := UInt32.lt_iff_toNat_lt.mp before
    rw [read (Nat.lt_succ_of_lt less), Value.codec.read_write_of_ne _ (Nat.ne_of_lt less), same,
      earlier other before]
  · rw [stored.sound.get_of_contents stored.record, Field.read_write_apart _ _ (by decide), mark]

/-- A push that answers has stored the value, in an element array that was there or in one that it
attached. Everything else of the object reads as it did. -/
theorem Sound.pushElement_stored (sound : heap.Sound) (accounted : heap.handles.Accounted)
    {value : Value Handle} {index : UInt32}
    (pushed : (pushElement object value heap).answer = .ok index) :
    ∃ array old record bytes, heap.view.contents object .object = .ok old ∧
      record.length = Layout.object.size ∧ ObjectField.arrayValues.read record = array ∧
      ObjectField.arrayCount.read old = index ∧
      ObjectField.fastArray.read record =
        ((ObjectField.arrayValues.read old).isNull || ObjectField.fastArray.read old) ∧
      (∀ other < index, (heap.element object other).answer =
        .ok (Value.codec.read bytes other.toNat)) ∧
      Stored object array record bytes index value (pushElement object value heap).state := by
  have pushing := sound.pushing accounted object value
  rw [pushed] at pushing
  generalize (pushElement object value heap).state = after at pushing ⊢
  generalize done : Except.ok index = answer at pushing
  cases pushing with
  | missing | unattached | astray => cases done
  | @attached record middle array known null attaching =>
    have whole := sound.length_record known
    cases attaching with
    | attached made dead sound' own elements =>
      have points := arrayValues_attached whole array
      have length : (ObjectField.arrayValues.write array record).length =
          Layout.object.size := by rw [Field.length_write, whole]
      obtain ⟨rfl, stored⟩ := sound'.storeElement_done own points elements done.symm
      refine ⟨_, _, _, _, known, ?_, points, rfl, ?_, fun other covered => ?_, stored⟩
      · rw [Field.length_write, length]
      · rw [Field.read_write _ _ length, null, Bool.true_or]
      · rw [sound.answer_element_of_null known covered null, read_value_zeros]
  | stored known some elements =>
    obtain ⟨rfl, stored⟩ := sound.storeElement_done known rfl elements done.symm
    refine ⟨_, _, _, _, known, sound.length_record known, rfl, rfl, ?_, fun other covered => ?_,
      stored⟩
    · rw [some, Bool.false_or]
    · exact sound.answer_element_of_array known covered elements

/-- A push that answers has appended the value. -/
theorem Sound.pushElement_done (sound : heap.Sound) (accounted : heap.handles.Accounted)
    {value : Value Handle} {index : UInt32}
    (pushed : (pushElement object value heap).answer = .ok index) :
    Appended object value index heap (pushElement object value heap).state := by
  obtain ⟨array, old, record, bytes, known, whole, points, counted, mark, earlier, stored⟩ :=
    sound.pushElement_stored accounted pushed
  exact stored.appended sound known whole points counted mark earlier

/-- A push that answers an index has appended the value there: the index is the old count of the
object, the new count is one more, and the elements before it are read as before. The object is a
fast array afterwards if and only if it was one before or had no element array before. -/
theorem push_appends {config : Config} {requested : Nat} (reached : Reached config requested heap)
    (few : requested < sizeLimit) (object : Handle) (value : Value Handle) {index : UInt32}
    (pushed : (pushElement object value heap).answer = .ok index) :
    Appended object value index heap (pushElement object value heap).state ∧
      (((pushElement object value heap).state.get object ObjectField.fastArray).answer = .ok true ↔
        (heap.get object ObjectField.fastArray).answer = .ok true ∨
          ∃ values, (heap.get object ObjectField.arrayValues).answer = .ok values ∧
            values.isNull = true) := by
  obtain ⟨sound, -⟩ := (tracked_of_reached reached).sound few
  have appended := sound.pushElement_done (accounted_of_reached reached) pushed
  refine ⟨appended, ?_⟩
  obtain ⟨fast, values, marked, attached, mark⟩ := appended.mark
  rw [mark, marked, attached]
  cases null : values.isNull with
  | true => exact iff_of_true rfl (.inr ⟨values, rfl, null⟩)
  | false =>
    refine ⟨.inl, ?_⟩
    rintro (same | ⟨other, same, null'⟩)
    · exact same
    · cases same
      cases null.symm.trans null'

/-- An object whose element array was attached by a write to its field. -/
def attachedByWrite : List (Operation Handle) :=
  [.allocObject .null 0, .allocElements 4, .set ⟨1, 0⟩ ObjectField.arrayValues ⟨2, 0⟩]

theorem push_appends_small :
    let requested := (runCounting 0 newSmall attachedByWrite).1
    let heap := newSmall.run attachedByWrite
    let after := (pushElement ⟨1, 0⟩ (.int 7) heap).state
    Reached { arenaCapacity := 1024 } requested heap ∧ requested < sizeLimit ∧
      (pushElement ⟨1, 0⟩ (.int 7) heap).answer = .ok 0 ∧
      Appended ⟨1, 0⟩ (.int 7) 0 heap after := by
  have reached : Reached { arenaCapacity := 1024 } (runCounting 0 newSmall attachedByWrite).1
      (newSmall.run attachedByWrite) := reached_run (.new new_small) attachedByWrite
  have run : (runCounting 0 newSmall attachedByWrite).1 < sizeLimit ∧
      (pushElement ⟨1, 0⟩ (.int 7) (newSmall.run attachedByWrite)).answer = .ok 0 := by
    decide +kernel
  exact ⟨reached, run.1, run.2, (push_appends reached run.1 ⟨1, 0⟩ (.int 7) run.2).1⟩

/-- A push to it is done and does not mark it as a fast array. -/
theorem unmarked_after_push :
    let heap := newSmall.run attachedByWrite
    let out := pushElement ⟨1, 0⟩ (.int 7) heap
    Reached { arenaCapacity := 1024 } (runCounting 0 newSmall attachedByWrite).1 heap ∧
      heap.kind? ⟨1, 0⟩ = some .object ∧
      (heap.get ⟨1, 0⟩ ObjectField.arrayValues).answer = .ok ⟨2, 0⟩ ∧
      out.answer = .ok 0 ∧
      (out.state.element ⟨1, 0⟩ 0).answer = .ok (.int 7) ∧
      (out.state.get ⟨1, 0⟩ ObjectField.fastArray).answer = .ok false := by
  refine ⟨reached_run (.new new_small) attachedByWrite, ?_⟩
  decide +kernel

end HandleHeap.Heap
