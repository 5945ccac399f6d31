import HandleHeap.Proofs.Heap.Objects

/-!
# The elements of an object as a list

The count of an object says how many cells of its element array are elements. `View.Lists` says that
these hold the values of a list, one after the other.

* `Sound.answer_element`, `Sound.capacity_of_lists`: what is read of the elements is read of the list.
* `Sound.setElement_cases`: an element is replaced where the list has one.
* `Sound.storeElement`: what storing an element comes to, whatever the count of the object is
  (`Storing`).
* `Sound.pushing`: what pushing a value comes to, whatever the object is (`Pushing`).
* `Sound.pushElement_cases`: a value is appended to the list, or is refused and the list stays. An
  array that is full moves to a longer block first, and an object without one gets one.
-/

namespace HandleHeap

open HandleHeap.Action

/-! ## 1. Cells -/

/-- The first cells of some bytes hold the values of a list. -/
structure Cells (bytes : List UInt8) (values : List (Value Handle)) : Prop where
  room : values.length * Value.size ≤ bytes.length
  value : ∀ {i value}, values[i]? = some value →
    Value.decode (window bytes (i * Value.size) Value.size) = value

namespace Cells

variable {bytes : List UInt8} {values : List (Value Handle)}

theorem nil (bytes : List UInt8) : Cells bytes [] := ⟨by simp, fun h => by simp at h⟩

/-- Bytes that are not cut below the list keep it. -/
theorem fitted (cells : Cells bytes values) {size : Nat} (room : bytes.length ≤ size) :
    Cells (fitted bytes size) values := by
  refine ⟨?_, fun {i value} known => ?_⟩
  · rw [length_fitted]
    exact Nat.le_trans cells.room room
  · have inside : i * Value.size + Value.size ≤ values.length * Value.size :=
      cell_fits (List.getElem?_eq_some_iff.mp known).1
    have known' := cells.value known
    rwa [window_fitted (by have := cells.room; omega) (Nat.le_trans inside cells.room)]

theorem set (cells : Cells bytes values) (value : Value Handle) (i : Nat)
    (inside : i < values.length) :
    Cells (splice bytes (i * Value.size) value.encode) (values.set i value) := by
  refine ⟨by simpa using cells.room, fun {j other} known => ?_⟩
  rw [List.getElem?_set] at known
  by_cases own : i = j
  · subst own
    rw [if_pos rfl, if_pos inside] at known
    cases known
    exact Value.codec.read_write _ (Nat.le_trans (cell_fits inside) cells.room)
  · rw [if_neg own] at known
    exact (Value.codec.read_write_of_ne value (Ne.symm own)).trans (cells.value known)

theorem append (cells : Cells bytes values) (value : Value Handle)
    (room : values.length * Value.size + Value.size ≤ bytes.length) :
    Cells (splice bytes (values.length * Value.size) value.encode) (values ++ [value]) := by
  refine ⟨by simpa [Nat.add_mul] using room, fun {j other} known => ?_⟩
  rw [List.getElem?_append] at known
  split at known
  · next before =>
    exact (Value.codec.read_write_of_ne value (Nat.ne_of_lt before)).trans (cells.value known)
  · next beyond =>
    have last : j = values.length := by
      have := (List.getElem?_eq_some_iff.mp known).1
      simp only [List.length_singleton] at this
      omega
    subst last
    simp only [Nat.sub_self, List.getElem?_cons_zero, Option.some.injEq] at known
    subst known
    exact Value.codec.read_write _ room

end Cells

/-! ## 2. The list of an object -/

namespace View

/-- The number of elements of an object. -/
def count (view : View) (object : Handle) : UInt32 := view.field object ObjectField.arrayCount

/-- The element array of an object, null-like as long as it has none. -/
def elements (view : View) (object : Handle) : Handle := view.field object ObjectField.arrayValues

/-- The number of elements that an object has room for. -/
def elementCapacity (view : View) (object : Handle) : UInt32 :=
  view.capacity (view.elements object) .elementArray Value.size

/-- The view with a value in the cell of an element array after the first `count` ones, which is
counted in the object. -/
def append (view : View) (object array : Handle) (record bytes : List UInt8) (count : UInt32)
    (value : Value Handle) : View :=
  (view.withBytes array (some (splice bytes (count.toNat * Value.size) value.encode))).withBytes
    object (some (ObjectField.arrayCount.write (count + 1) record))

/-- The elements of an object are the values of a list. -/
structure Lists (view : View) (object : Handle) (values : List (Value Handle)) : Prop where
  kind : view.kind? object = some .object
  length : (view.count object).toNat = values.length
  cells : ((view.elements object).isNull = true ∧ values = []) ∨
    ((view.elements object).isNull = false ∧
      ∃ bytes, view.contents (view.elements object) .elementArray = .ok bytes ∧ Cells bytes values)

/-- An object keeps its list as long as its count and its element array stay. -/
theorem Lists.of_same {before after : View} {object : Handle} {values : List (Value Handle)}
    (lists : before.Lists object values) (kind : after.kind? object = before.kind? object)
    (count : after.count object = before.count object)
    (elements : after.elements object = before.elements object)
    (array : (before.elements object).isNull = false → Rests (before.elements object) before after) :
    after.Lists object values := by
  refine ⟨kind.trans lists.kind, (congrArg UInt32.toNat count).trans lists.length, ?_⟩
  rw [elements]
  refine lists.cells.imp id fun ⟨attached, bytes, known, cells⟩ => ⟨attached, bytes, ?_, cells⟩
  rw [(array attached).contents, known]

/-- The count is the length. -/
theorem Lists.count_eq {view : View} {object : Handle} {values : List (Value Handle)}
    (lists : view.Lists object values) : view.count object = UInt32.ofNat values.length := by
  rw [← lists.length, UInt32.ofNat_toNat]

end View

namespace Heap

variable {heap : Heap} {object : Handle} {values : List (Value Handle)}

section Record

variable {record : List UInt8} (known : heap.view.contents object .object = .ok record)

include known

theorem count_of_contents : heap.view.count object = ObjectField.arrayCount.read record :=
  field_of_contents known _

theorem elements_of_contents : heap.view.elements object = ObjectField.arrayValues.read record :=
  field_of_contents known _

theorem Sound.length_record (sound : heap.Sound) : record.length = Layout.object.size :=
  layout_allows (sound.allows_contents
    (show heap.view.contents object Layout.object.kind = .ok record from known))

end Record

/-- What an object record with an element array must hold. -/
theorem lists_of_contents {record bytes : List UInt8}
    (known : heap.view.contents object .object = .ok record)
    (attached : (ObjectField.arrayValues.read record).isNull = false)
    (array : heap.view.contents (ObjectField.arrayValues.read record) .elementArray = .ok bytes)
    (length : (ObjectField.arrayCount.read record).toNat = values.length)
    (cells : Cells bytes values) : heap.view.Lists object values := by
  refine ⟨(kind?_view object).trans (contents_eq_ok known).1, ?_, ?_⟩
  · rw [count_of_contents known, length]
  · rw [elements_of_contents known]
    exact .inr ⟨attached, bytes, array, cells⟩

/-- The record of an object with a list. -/
theorem contents_of_lists (lists : heap.view.Lists object values) :
    ∃ record, heap.view.contents object .object = .ok record ∧
      ObjectField.arrayCount.read record = heap.view.count object ∧
      ObjectField.arrayValues.read record = heap.view.elements object := by
  have known := contents_of_kind? ((kind?_view object).symm.trans lists.kind)
  exact ⟨_, known, (count_of_contents known).symm, (elements_of_contents known).symm⟩

/-- An object is not its element array. -/
theorem ne_of_contents {record bytes : List UInt8} {array : Handle}
    (known : heap.view.contents object .object = .ok record)
    (elements : heap.view.contents array .elementArray = .ok bytes) : object ≠ array := by
  rintro rfl
  cases (contents_eq_ok known).1.symm.trans (contents_eq_ok elements).1

/-- As many cells as an element array has can be counted in 32 bits. -/
theorem Sound.cells_of_array (sound : heap.Sound) {array : Handle} {bytes : List UInt8}
    (known : heap.view.contents array .elementArray = .ok bytes) :
    bytes.length / Value.size < 2 ^ 32 ∧
      (UInt32.ofNat (bytes.length / Value.size)).toNat = bytes.length / Value.size ∧
      bytes.length / Value.size * Value.size = bytes.length := by
  obtain ⟨cells, -, few, length⟩ := sound.allows_contents known
  have whole : bytes.length / Value.size = cells := by
    rw [length]
    exact Nat.mul_div_cancel _ (by decide)
  rw [whole]
  exact ⟨few, UInt32.toNat_ofNat_of_lt' few, length.symm⟩

/-- A cell that a list reaches is there. -/
theorem cell_of_cells {bytes : List UInt8} (cells : Cells bytes values) {index : UInt32}
    (inside : index.toNat < values.length) :
    Heap.cell bytes.length index Value.size = .ok (index.toNat * Value.size) := by
  have room : values.length ≤ bytes.length / Value.size :=
    (Nat.le_div_iff_mul_le (by decide)).mpr cells.room
  exact if_pos (Nat.lt_of_lt_of_le inside room)

/-! ## 3. Reading -/

/-- The element array is given for the indices of the list. -/
theorem Sound.elementStorage_eq (sound : heap.Sound) (lists : heap.view.Lists object values)
    (index : UInt32) : heap.elementStorage object index =
      if index.toNat < values.length then pure (heap.view.elements object)
      else Report.refuse (.indexOutOfBounds index (UInt32.ofNat values.length)) := by
  obtain ⟨record, known, count, elements⟩ := contents_of_lists lists
  rw [elementStorage, sound.tryGet_eq_pure known, sound.tryGet_eq_pure known, count, elements,
    Report.pure_bind, lists.count_eq, ← lists.count_eq, ← lists.length]
  by_cases inside : index.toNat < (heap.view.count object).toNat
  · rw [if_pos inside, if_neg (UInt32.not_le.mpr inside)]
  · rw [if_neg inside, if_pos (UInt32.not_lt.mp inside)]

/-- An element is read where the list has one. -/
theorem Sound.answer_tryElement (sound : heap.Sound) (lists : heap.view.Lists object values)
    (index : UInt32) : (heap.tryElement object index).answer =
      match values[index.toNat]? with
      | some value => .ok value
      | none => .error (.refused (.indexOutOfBounds index (UInt32.ofNat values.length))) := by
  rw [tryElement, sound.elementStorage_eq lists]
  by_cases inside : index.toNat < values.length
  · have known := List.getElem?_eq_getElem inside
    rw [if_pos inside, Report.pure_bind, sound.answer_cell, known]
    rcases lists.cells with ⟨-, rfl⟩ | ⟨-, bytes, array, cells⟩
    · cases inside
    · rw [View.cell, array]
      show Except.map Value.decode ((Heap.cell bytes.length index Value.size).bind _) = _
      rw [cell_of_cells cells inside]
      exact congrArg Except.ok (cells.value known)
  · rw [if_neg inside, List.getElem?_eq_none (Nat.le_of_not_lt inside)]
    rfl

theorem Sound.answer_element (sound : heap.Sound) (lists : heap.view.Lists object values)
    (index : UInt32) :
    (heap.element object index).answer = .ok (values[index.toNat]?.getD .undefined) := by
  have answer := sound.answer_tryElement lists index
  unfold element
  generalize heap.tryElement object index = report at answer
  obtain ⟨_, events⟩ := report
  subst answer
  cases values[index.toNat]? <;> rfl

theorem elementCapacity_of_contents {record bytes : List UInt8}
    (known : heap.view.contents object .object = .ok record)
    (elements : heap.view.contents (ObjectField.arrayValues.read record) .elementArray = .ok bytes) :
    heap.view.elementCapacity object = UInt32.ofNat (bytes.length / Value.size) := by
  rw [View.elementCapacity, elements_of_contents known, View.capacity, elements]

theorem capacity_of_null {handle : Handle} (null : handle.isNull = true) {kind : RecordKind}
    {stride : Nat} : heap.view.capacity handle kind stride = 0 := by
  cases known : heap.view.contents handle kind with
  | ok bytes =>
    rw [ne_null_of_kind? (contents_eq_ok known).1] at null
    cases null
  | error stop => rw [View.capacity, known]

/-- The capacity of an object is that of its element array. -/
theorem Sound.elementCapacity_eq (sound : heap.Sound) {record bytes : List UInt8}
    (known : heap.view.contents object .object = .ok record)
    (attached : (ObjectField.arrayValues.read record).isNull = false)
    (array : heap.view.contents (ObjectField.arrayValues.read record) .elementArray = .ok bytes) :
    heap.elementCapacity object = pure (UInt32.ofNat (bytes.length / Value.size)) := by
  obtain ⟨placement, -, -, found, rfl⟩ := sound.record_eq_pure array
  rw [elementCapacity, sound.get_eq_pure known, Report.pure_bind, attached, found,
    Memory.length_read]
  rfl

/-- The capacity of any handle, which is 0 where there is no object with an element array. -/
theorem Sound.answer_elementCapacity (sound : heap.Sound) (object : Handle) :
    (heap.elementCapacity object).answer = .ok (heap.view.elementCapacity object) := by
  have values := sound.answer_get object ObjectField.arrayValues
  rw [elementCapacity, Report.answer_bind_of_ok values]
  split
  · next null => exact congrArg Except.ok (capacity_of_null null).symm
  · exact sound.answer_capacity (heap.view.elements object) .elementArray Value.size

theorem Sound.capacity_of_lists (sound : heap.Sound) (lists : heap.view.Lists object values) :
    ∃ capacity, (heap.elementCapacity object).answer = .ok capacity ∧
      values.length ≤ capacity.toNat := by
  obtain ⟨record, known, -, elements⟩ := contents_of_lists lists
  rcases lists.cells with ⟨null, rfl⟩ | ⟨attached, bytes, array, cells⟩
  · refine ⟨0, ?_, Nat.le_refl 0⟩
    rw [elementCapacity, sound.get_eq_pure known, elements, Report.pure_bind, if_pos null]
    rfl
  · rw [← elements] at attached array
    refine ⟨_, congrArg Report.answer (sound.elementCapacity_eq known attached array), ?_⟩
    rw [(sound.cells_of_array array).2.1]
    exact (Nat.le_div_iff_mul_le (by decide)).mpr cells.room

/-! ## 4. Replacing an element -/

/-- Storing a value in a cell of an element array. -/
theorem Sound.setCell_eq (sound : heap.Sound) {array : Handle} {bytes : List UInt8}
    (known : heap.view.contents array .elementArray = .ok bytes) {index : UInt32} {start : Nat}
    (inside : Heap.cell bytes.length index Value.size = .ok start) (value : Value Handle) :
    ∃ after, setCell array index value heap = ⟨.ok (), after, []⟩ ∧ after.Sound ∧
      after.view = heap.view.withBytes array (some (splice bytes start value.encode)) := by
  have edited : (heap.view.contents array .elementArray >>= fun bytes =>
      (Heap.cell bytes.length index Value.size).map fun start =>
        splice bytes start value.encode) = .ok (splice bytes start value.encode) := by
    rw [known]
    show (Heap.cell bytes.length index Value.size).map _ = _
    rw [inside]
    rfl
  obtain ⟨after, run, rewrites⟩ := (edits_setCell array index value).done sound.toSeparated edited
  exact ⟨after, run, rewrites.sound sound, rewrites.view⟩

/-- An element is replaced where the list has one. -/
theorem Sound.setElement_cases (sound : heap.Sound) (lists : heap.view.Lists object values)
    (index : UInt32) (value : Value Handle) :
    (index.toNat < values.length ∧ (setElement object index value heap).answer = .ok () ∧
        (setElement object index value heap).state.view.Lists object
          (values.set index.toNat value) ∧
        (setElement object index value heap).state.view.elements object =
          heap.view.elements object) ∨
      (values.length ≤ index.toNat ∧ setElement object index value heap = ⟨.error (.refused
        (.indexOutOfBounds index (UInt32.ofNat values.length))), heap, []⟩) := by
  have storage := sound.elementStorage_eq lists index
  by_cases inside : index.toNat < values.length
  · obtain ⟨record, known, count, elements⟩ := contents_of_lists lists
    rcases lists.cells with ⟨-, rfl⟩ | ⟨attached, bytes, array, cells⟩
    · cases inside
    · rw [if_pos inside] at storage
      obtain ⟨after, run, -, view⟩ := sound.setCell_eq array (cell_of_cells cells inside) value
      have own : after.view.contents object .object = .ok record := by
        rw [view, View.contents_withBytes_ne _ (ne_of_contents known array), known]
      have stored := View.contents_withBytes_self _ array
        (splice bytes (index.toNat * Value.size) value.encode)
      rw [← view] at stored
      refine .inl ⟨inside, ?_⟩
      rw [setElement, look_bind_of_pure (Heap.elementStorage · object index) storage, run]
      refine ⟨rfl, lists_of_contents own (by rwa [elements]) (by rwa [elements]) ?_
        (cells.set value _ inside), ?_⟩
      · rw [count, lists.length, List.length_set]
      · exact (field_of_contents own _).trans elements
  · rw [if_neg inside] at storage
    refine .inr ⟨Nat.le_of_not_lt inside, ?_⟩
    rw [setElement, look_bind_of_error (Heap.elementStorage · object index) storage]

/-! ## 5. Appending an element -/

/-- What is no object is not pushed to. -/
theorem pushElement_of_missing {stop : Stop}
    (none : heap.view.contents object Layout.object.kind = .error stop) (value : Value Handle) :
    ∃ events, pushElement object value heap = ⟨.error stop, heap, events⟩ := by
  obtain ⟨error, events, rfl, refused⟩ := tryGet_eq_error none ObjectField.arrayCount
  exact ⟨events, by rw [pushElement_eq, look_bind_of_error
    (Heap.tryGet · object ObjectField.arrayCount) refused]⟩

section Record

variable {record : List UInt8} (known : heap.view.contents object .object = .ok record)

include known

/-- A push to an object without elements. -/
theorem Sound.pushElement_of_null (sound : heap.Sound)
    (null : (ObjectField.arrayValues.read record).isNull = true) (value : Value Handle) :
    pushElement object value heap = (attachElements object >>= fun array =>
      storeElement object array (ObjectField.arrayCount.read record) value) heap := by
  have known : heap.view.contents object Layout.object.kind = .ok record := known
  rw [pushElement_eq, look_bind_of_pure (Heap.tryGet · object ObjectField.arrayCount)
    (sound.tryGet_eq_pure known _), look_bind_of_pure
    (Heap.tryGet · object ObjectField.arrayValues) (sound.tryGet_eq_pure known _)]
  simp only [null, if_true]

/-- A push to an object that points to its elements. -/
theorem Sound.pushElement_of_attached (sound : heap.Sound)
    (attached : (ObjectField.arrayValues.read record).isNull = false) (value : Value Handle) :
    pushElement object value heap = storeElement object (ObjectField.arrayValues.read record)
      (ObjectField.arrayCount.read record) value heap := by
  have known : heap.view.contents object Layout.object.kind = .ok record := known
  rw [pushElement_eq, look_bind_of_pure (Heap.tryGet · object ObjectField.arrayCount)
    (sound.tryGet_eq_pure known _), look_bind_of_pure
    (Heap.tryGet · object ObjectField.arrayValues) (sound.tryGet_eq_pure known _)]
  simp only [attached, Bool.false_eq_true, if_false]
  exact look_bind_of_pure (fun _ => pure (ObjectField.arrayValues.read record)) rfl

end Record

/-- A cell that the element array has is filled, and counted in the object. -/
theorem Sound.fillCell_within (sound : heap.Sound) {array : Handle} {record bytes : List UInt8}
    (known : heap.view.contents object .object = .ok record)
    (elements : heap.view.contents array .elementArray = .ok bytes) {count : UInt32}
    (inside : count.toNat < bytes.length / Value.size) (value : Value Handle) :
    ∃ after, fillCell object array count value heap = ⟨.ok count, after, []⟩ ∧ after.Sound ∧
      after.view = heap.view.append object array record bytes count value := by
  have few := (sound.cells_of_array elements).1
  have start : Heap.cell bytes.length count Value.size = .ok (count.toNat * Value.size) :=
    if_pos inside
  obtain ⟨filled, fill, sound, view⟩ := sound.setCell_eq elements start value
  have own : filled.view.contents object Layout.object.kind = .ok record := by
    rw [view, View.contents_withBytes_ne _ (ne_of_contents known elements)]
    exact known
  obtain ⟨after, setCount, sound', view'⟩ := sound.set_eq own ObjectField.arrayCount (count + 1)
  have room : count.toNat + 1 < 0x100000000 := by omega
  refine ⟨after, ?_, sound', by rw [view', view, View.append]⟩
  rw [fillCell, bind_apply_of_ok fill, if_pos room, bind_apply_of_ok setCount]
  rfl

/-- A cell that the element array has not is refused before anything is written. -/
theorem Sound.fillCell_beyond (sound : heap.Sound) (object : Handle) {array : Handle}
    {bytes : List UInt8}
    (elements : heap.view.contents array .elementArray = .ok bytes) {count : UInt32}
    (beyond : bytes.length / Value.size ≤ count.toNat) (value : Value Handle) :
    ∃ events, fillCell object array count value heap = ⟨.error (.refused
      (.indexOutOfBounds count (UInt32.ofNat (bytes.length / Value.size)))), heap, events⟩ := by
  have start : Heap.cell bytes.length count Value.size = .error (.refused
      (.indexOutOfBounds count (UInt32.ofNat (bytes.length / Value.size)))) :=
    if_neg (Nat.not_lt.mpr beyond)
  have refused : (heap.view.contents array .elementArray >>= fun bytes =>
      (Heap.cell bytes.length count Value.size).map fun start =>
        splice bytes start value.encode) = .error (.refused
          (.indexOutOfBounds count (UInt32.ofNat (bytes.length / Value.size)))) := by
    rw [elements]
    show (Heap.cell bytes.length count Value.size).map _ = _
    rw [start]
    rfl
  obtain ⟨events, run⟩ := (edits_setCell array count value).refused sound.toSeparated refused
  exact ⟨events, bind_apply_of_error run⟩

/-- Where the elements of an object should be is no element array: nothing is grown or stored. -/
theorem Sound.pushElement_of_no_array (sound : heap.Sound) {record : List UInt8} {stop : Stop}
    (known : heap.view.contents object .object = .ok record)
    (attached : (ObjectField.arrayValues.read record).isNull = false)
    (none : heap.view.contents (ObjectField.arrayValues.read record) .elementArray = .error stop)
    (value : Value Handle) :
    ∃ events, pushElement object value heap = ⟨.error stop, heap, events⟩ := by
  obtain ⟨error, events, rfl, refused⟩ := record_eq_error none
  have capacity : heap.elementCapacity object = ⟨.ok 0, events⟩ := by
    have known : heap.view.contents object Layout.object.kind = .ok record := known
    rw [elementCapacity, sound.get_eq_pure known, Report.pure_bind, attached, refused]
    rfl
  obtain ⟨events', grown⟩ := growRecord_of_missing none (grownCapacity 0 * Value.size)
  refine ⟨events ++ events', ?_⟩
  rw [sound.pushElement_of_attached known attached, storeElement, bind_apply_of_ok (look_apply
    (Heap.elementCapacity · object) capacity), if_pos UInt32.zero_le, bind_apply_of_error grown]

theorem le_grownCapacity (capacity : UInt32) : capacity.toNat ≤ grownCapacity capacity := by
  unfold grownCapacity
  have := capacity.toNat_lt
  omega

theorem grownCapacity_lt (capacity : UInt32) : grownCapacity capacity < 2 ^ 32 := by
  unfold grownCapacity
  have small : initialElementCapacity.toNat = 4 := rfl
  omega

/-- What storing an element comes to. The cell after the elements is filled, in the array as it is
or grown. Or there is no space to grow, or the count is beyond the array that was grown. -/
inductive Storing (object array : Handle) (record bytes : List UInt8) (capacity count : UInt32)
    (value : Value Handle) (heap after : Heap) : Except Stop UInt32 → Prop
  | stored : count < capacity → after.Sound →
    after.view = heap.view.append object array record bytes count value →
      Storing object array record bytes capacity count value heap after (.ok count)
  | grown : count.toNat < grownCapacity capacity → after.Sound →
    after.view = (heap.asked (grownCapacity capacity * Value.size)).append object array record
      (fitted bytes (grownCapacity capacity * Value.size)) count value →
      Storing object array record bytes capacity count value heap after (.ok count)
  | full {error : HeapError} : capacity ≤ count →
    (growRecord array .elementArray (grownCapacity capacity * Value.size) heap).answer =
      .error (.refused error) →
    after.view = heap.asked (grownCapacity capacity * Value.size) →
      Storing object array record bytes capacity count value heap after (.error (.refused error))
  | beyond : grownCapacity capacity ≤ count.toNat →
    (growRecord array .elementArray (grownCapacity capacity * Value.size) heap).answer = .ok () →
    after.view = (heap.asked (grownCapacity capacity * Value.size)).withBytes array
      (some (fitted bytes (grownCapacity capacity * Value.size))) →
      Storing object array record bytes capacity count value heap after (.error (.refused
        (.indexOutOfBounds count (UInt32.ofNat (grownCapacity capacity)))))

/-- Once an array was grown, the element is stored, unless the count is beyond the array even so. -/
theorem Sound.storeElement_grown {middle : Heap} (sound : middle.Sound) {array : Handle}
    {record bytes : List UInt8} {capacity count : UInt32}
    (known : heap.view.contents object .object = .ok record)
    (elements : heap.view.contents array .elementArray = .ok bytes)
    (grown : (Heap.growRecord array .elementArray (grownCapacity capacity * Value.size)
      heap).answer = .ok ())
    (view : middle.view = (heap.asked (grownCapacity capacity * Value.size)).withBytes array
      (some (fitted bytes (grownCapacity capacity * Value.size)))) (value : Value Handle) :
    Storing object array record bytes capacity count value heap
      (fillCell object array count value middle).state
      (fillCell object array count value middle).answer := by
  have own : middle.view.contents object .object = .ok record := by
    rw [view, View.contents_withBytes_ne _ (ne_of_contents known elements)]
    exact known
  have longer : middle.view.contents array .elementArray =
      .ok (fitted bytes (grownCapacity capacity * Value.size)) := by
    rw [view]
    exact View.contents_withBytes_self _ (show (heap.asked _).contents _ _ = _ from elements) _
  have cells : (fitted bytes (grownCapacity capacity * Value.size)).length / Value.size =
      grownCapacity capacity := by
    rw [length_fitted]
    exact Nat.mul_div_cancel _ (by decide)
  rcases Nat.lt_or_ge count.toNat (grownCapacity capacity) with inside | beyond
  · obtain ⟨filled, fill, sound', view'⟩ :=
      sound.fillCell_within own longer (cells ▸ inside) value
    rw [fill]
    refine .grown inside sound' ?_
    rw [view', view, View.append, View.append, View.withBytes_withBytes]
  · obtain ⟨events, fill⟩ := sound.fillCell_beyond object longer (cells ▸ beyond) value
    rw [fill, cells]
    exact .beyond beyond grown view

/-- A full array moves to a longer block before an element is stored in it. -/
theorem Sound.storeElement (sound : heap.Sound) {array : Handle} {record bytes : List UInt8}
    (known : heap.view.contents object .object = .ok record)
    (points : ObjectField.arrayValues.read record = array)
    (elements : heap.view.contents array .elementArray = .ok bytes) (count : UInt32)
    (value : Value Handle) :
    Storing object array record bytes (UInt32.ofNat (bytes.length / Value.size)) count value heap
      (storeElement object array count value heap).state
      (storeElement object array count value heap).answer := by
  obtain ⟨-, size, -⟩ := sound.cells_of_array elements
  subst points
  have live := ne_null_of_kind? (contents_eq_ok elements).1
  rw [Heap.storeElement, look_bind_of_pure (Heap.elementCapacity · object)
    (sound.elementCapacity_eq known live elements)]
  generalize UInt32.ofNat (bytes.length / Value.size) = capacity at size
  split
  · next full =>
    have grown := Sound.growRecord sound (ObjectField.arrayValues.read record)
      (allows_grownCapacity capacity)
    rcases run : Heap.growRecord (ObjectField.arrayValues.read record) .elementArray
      (grownCapacity capacity * Value.size) heap with ⟨stop | done, middle, events⟩ <;>
        rw [run] at grown
    · have grown : Grown _ _ _ heap middle (.error stop) := grown
      rw [bind_apply_of_error run]
      cases grown with
      | missing none _ => cases elements.symm.trans none
      | refused _ _ view => exact .full full (congrArg Outcome.answer run) view
    · have grown : Grown _ _ _ heap middle (.ok done) := grown
      rw [answer_bind_of_ok run, state_bind_of_ok run]
      cases grown with
      | grown known' _ view sound' =>
        cases elements.symm.trans known'
        exact sound'.storeElement_grown known elements (congrArg Outcome.answer run) view value
  · next room =>
    have inside := UInt32.not_le.mp room
    obtain ⟨filled, fill, sound', view⟩ :=
      sound.fillCell_within known elements (size ▸ UInt32.lt_iff_toNat_lt.mp inside) value
    show Storing _ _ _ _ _ _ _ heap (fillCell object _ count value heap).state
      (fillCell object _ count value heap).answer
    rw [fill]
    exact .stored inside sound' view

/-! ## 6. Appending to a list -/

/-- What appending a value to a list comes to. -/
inductive Pushed (object : Handle) (values : List (Value Handle)) (value : Value Handle)
    (after : Heap) : Except Stop UInt32 → Prop
  | appended {count : UInt32} : count.toNat = values.length →
      after.view.Lists object (values ++ [value]) → Pushed object values value after (.ok count)
  | refused {error : HeapError} : after.view.Lists object values →
      Pushed object values value after (.error (.refused error))

/-- An object record and its element array, of which the first cells hold the values of a list. -/
structure Attached (view : View) (object array : Handle) (record bytes : List UInt8)
    (values : List (Value Handle)) : Prop where
  known : view.contents object .object = .ok record
  whole : record.length = Layout.object.size
  points : ObjectField.arrayValues.read record = array
  count : (ObjectField.arrayCount.read record).toNat = values.length
  live : array.isNull = false
  elements : view.contents array .elementArray = .ok bytes
  cells : Cells bytes values

namespace Attached

variable {view : View} {array : Handle} {record bytes : List UInt8}

theorem lists (attached : Attached view object array record bytes values) :
    view.Lists object values ∧ view.elements object = array := by
  have elements : view.elements object = array := by
    rw [View.elements, View.field]
    simp only [show view.contents object Layout.object.kind = _ from attached.known]
    exact attached.points
  have count : view.count object = ObjectField.arrayCount.read record := by
    rw [View.count, View.field]
    simp only [show view.contents object Layout.object.kind = _ from attached.known]
  refine ⟨⟨View.kind?_of_contents attached.known, ?_, .inr ⟨?_, bytes, ?_, attached.cells⟩⟩, elements⟩
  · rw [count, attached.count]
  · rw [elements, attached.live]
  · rw [elements, attached.elements]

theorem differ (attached : Attached view object array record bytes values) : object ≠ array := by
  intro same
  have kind := View.kind?_of_contents attached.elements
  rw [← same, View.kind?_of_contents attached.known] at kind
  cases kind

/-- A longer array holds the list as well. -/
theorem fitted (attached : Attached view object array record bytes values) {size : Nat}
    (longer : bytes.length ≤ size) :
    Attached (view.withBytes array (some (fitted bytes size))) object array record
      (HandleHeap.fitted bytes size) values where
  known := by rw [View.contents_withBytes_ne _ attached.differ, attached.known]
  whole := attached.whole
  points := attached.points
  count := attached.count
  live := attached.live
  elements := View.contents_withBytes_self _ attached.elements _
  cells := attached.cells.fitted longer

/-- The cell after the list, filled and counted. -/
theorem append (attached : Attached view object array record bytes values) {count : UInt32}
    (length : count.toNat = values.length) (value : Value Handle)
    (room : values.length * Value.size + Value.size ≤ bytes.length)
    (few : count.toNat + 1 < 2 ^ 32) :
    Attached (view.append object array record bytes count value) object array
      (ObjectField.arrayCount.write (count + 1) record)
      (splice bytes (values.length * Value.size) value.encode) (values ++ [value]) where
  known := by
    have own := View.contents_withBytes_ne view attached.differ
      (some (splice bytes (count.toNat * Value.size) value.encode)) .object
    exact View.contents_withBytes_self _ (own.trans attached.known) _
  whole := by rw [Field.length_write, attached.whole]
  points := by rw [Field.read_write_apart _ _ (by decide), attached.points]
  count := by
    have one : (count + 1).toNat = count.toNat + 1 := by
      rw [UInt32.toNat_add]
      exact Nat.mod_eq_of_lt few
    rw [Field.read_write _ _ attached.whole, one, length, List.length_append,
      List.length_singleton]
  live := attached.live
  elements := by
    rw [View.append, View.contents_withBytes_ne _ (Ne.symm attached.differ),
      View.contents_withBytes_self _ attached.elements, length]
  cells := attached.cells.append value room

end Attached

/-- An element is stored after the list, or is refused and the list stays. -/
theorem Sound.storeAttached (sound : heap.Sound) {array : Handle} {record bytes : List UInt8}
    (attached : Attached heap.view object array record bytes values) {count : UInt32}
    (length : count.toNat = values.length) (value : Value Handle) :
    Pushed object values value (Heap.storeElement object array count value heap).state
        (Heap.storeElement object array count value heap).answer ∧
      (Heap.storeElement object array count value heap).state.view.elements object = array := by
  obtain ⟨few, size, whole⟩ := sound.cells_of_array attached.elements
  have storing := sound.storeElement attached.known attached.points attached.elements count value
  generalize UInt32.ofNat (bytes.length / Value.size) = capacity at storing size
  have asked : Attached (heap.asked (grownCapacity capacity * Value.size)) object array record bytes
      values := { attached with }
  have longer : bytes.length ≤ grownCapacity capacity * Value.size := by
    rw [← whole, ← size]
    exact Nat.mul_le_mul_right _ (le_grownCapacity capacity)
  generalize (Heap.storeElement object array count value heap).answer = answer at storing ⊢
  cases storing with
  | stored inside sound' view =>
    have inside := UInt32.lt_iff_toNat_lt.mp inside
    have room : values.length * Value.size + Value.size ≤ bytes.length :=
      Nat.le_trans (cell_fits (length ▸ size ▸ inside)) (Nat.le_of_eq whole)
    have last := attached.append length value room (by omega)
    rw [← view] at last
    exact ⟨.appended length last.lists.1, last.lists.2⟩
  | grown inside sound' view =>
    have room : values.length * Value.size + Value.size ≤
        (fitted bytes (grownCapacity capacity * Value.size)).length := by
      rw [length_fitted]
      exact cell_fits (length ▸ inside)
    have last := (asked.fitted longer).append length value room
      (Nat.lt_of_le_of_lt inside (grownCapacity_lt capacity))
    rw [View.append, View.withBytes_withBytes, ← View.append, ← view] at last
    exact ⟨.appended length last.lists.1, last.lists.2⟩
  | full full grown view =>
    rw [view]
    exact ⟨.refused (view ▸ asked.lists.1), asked.lists.2⟩
  | beyond beyond grown view =>
    have kept := (asked.fitted longer).lists
    rw [view]
    exact ⟨.refused (view ▸ kept.1), kept.2⟩

/-- What giving an object its first element array comes to. -/
inductive Attaching (object : Handle) (record : List UInt8) (heap after : Heap) :
    Except Stop Handle → Prop
  | refused {error : HeapError} :
    (Heap.allocElements initialElementCapacity heap).answer = .error (.refused error) →
      (∀ handle, after.labels.resolve handle = heap.labels.resolve handle ∧
        after.bytes? handle = heap.bytes? handle) →
      Attaching object record heap after (.error (.refused error))
  | attached {array : Handle} :
    (Heap.allocElements initialElementCapacity heap).answer = .ok array →
      heap.handles.resolve array = none → after.Sound →
      after.view.contents object .object =
        .ok (ObjectField.fastArray.write true (ObjectField.arrayValues.write array record)) →
      after.view.contents array .elementArray =
        .ok (List.replicate (initialElementCapacity.toNat * Value.size) 0) →
      Attaching object record heap after (.ok array)

/-- An object that got an element array and its mark points to the array. -/
theorem arrayValues_attached {record : List UInt8} (whole : record.length = Layout.object.size)
    (array : Handle) : ObjectField.arrayValues.read (ObjectField.fastArray.write true
      (ObjectField.arrayValues.write array record)) = array := by
  rw [Field.read_write_apart _ _ (by decide), Field.read_write _ _ whole]

/-- An object gets a fresh element array and its mark, or nothing is made. -/
theorem Sound.attachElements (sound : heap.Sound) (accounted : heap.handles.Accounted)
    {record : List UInt8} (known : heap.view.contents object .object = .ok record) :
    Attaching object record heap (attachElements object heap).state
      (attachElements object heap).answer := by
  have allowed : 0 < initialElementCapacity.toNat * Value.size →
      RecordKind.elementArray.Allows (initialElementCapacity.toNat * Value.size) :=
    fun _ => ⟨4, by decide, by decide, rfl⟩
  have made := sound.allocRecord allowed
  rcases run : Heap.allocRecord .elementArray (initialElementCapacity.toNat * Value.size) heap with
    ⟨stop | array, middle, events⟩
  · have made : Made _ _ _ heap middle (.error stop) := run ▸ made
    obtain ⟨error, rfl, -⟩ := made.error_cases accounted
    rw [Heap.attachElements, allocElements, bind_apply_of_error run]
    exact .refused (congrArg Outcome.answer run) made.same_of_error
  · have answer := congrArg Outcome.answer run
    have dead := sound.resolve_of_made allowed answer
    have made : Made _ _ _ heap middle (.ok array) := run ▸ made
    have differ : object ≠ array := by
      rintro rfl
      obtain ⟨placement, live, -⟩ := kind?_eq_some (contents_eq_ok known).1
      cases dead.symm.trans live
    have own : middle.view.contents object Layout.object.kind = .ok record := by
      have same := sound.others_of_made allowed answer differ
      rw [run] at same
      exact same.contents.trans known
    obtain ⟨pointed, point, sound', view'⟩ := made.sound.set_eq own ObjectField.arrayValues array
    have own' : pointed.view.contents object Layout.object.kind =
        .ok (ObjectField.arrayValues.write array record) := by
      rw [view', View.contents_withBytes_self _ own]
    obtain ⟨after, mark, sound'', view''⟩ := sound'.set_eq own' ObjectField.fastArray true
    have attached : Heap.attachElements object heap = ⟨.ok array, after, events⟩ := by
      rw [Heap.attachElements, allocElements, bind_apply_of_ok run, bind_apply_of_ok point,
        bind_apply_of_ok mark]
      simp [pure_apply]
    rw [attached]
    refine .attached answer dead sound'' ?_ ?_
    · rw [view'']
      exact View.contents_withBytes_self _ own' _
    · rw [view'', View.contents_withBytes_ne _ (Ne.symm differ), view',
        View.contents_withBytes_ne _ (Ne.symm differ), made.contents]

/-- What pushing a value comes to, whatever the object and its fields are. -/
inductive Pushing (object : Handle) (value : Value Handle) (heap : Heap) :
    Heap → Except Stop UInt32 → Prop
  /-- There is no object. -/
  | missing {stop : Stop} : heap.view.contents object .object = .error stop →
      Pushing object value heap heap (.error stop)
  /-- It has no element array, and there is none for it. -/
  | unattached {record : List UInt8} {after : Heap} {stop : Stop} :
    heap.view.contents object .object = .ok record →
    (ObjectField.arrayValues.read record).isNull = true →
    Attaching object record heap after (.error stop) →
      Pushing object value heap after (.error stop)
  /-- It had no element array. -/
  | attached {record : List UInt8} {middle : Heap} {array : Handle} :
    heap.view.contents object .object = .ok record →
    (ObjectField.arrayValues.read record).isNull = true →
    Attaching object record heap middle (.ok array) →
      Pushing object value heap
        (storeElement object array (ObjectField.arrayCount.read record) value middle).state
        (storeElement object array (ObjectField.arrayCount.read record) value middle).answer
  /-- What it points to is no element array. -/
  | astray {record : List UInt8} {stop : Stop} :
    heap.view.contents object .object = .ok record →
    (ObjectField.arrayValues.read record).isNull = false →
    heap.view.contents (ObjectField.arrayValues.read record) .elementArray = .error stop →
      Pushing object value heap heap (.error stop)
  | stored {record bytes : List UInt8} : heap.view.contents object .object = .ok record →
    (ObjectField.arrayValues.read record).isNull = false →
    heap.view.contents (ObjectField.arrayValues.read record) .elementArray = .ok bytes →
      Pushing object value heap
        (storeElement object (ObjectField.arrayValues.read record)
          (ObjectField.arrayCount.read record) value heap).state
        (storeElement object (ObjectField.arrayValues.read record)
          (ObjectField.arrayCount.read record) value heap).answer

theorem Sound.pushing (sound : heap.Sound) (accounted : heap.handles.Accounted)
    (object : Handle) (value : Value Handle) :
    Pushing object value heap (pushElement object value heap).state
      (pushElement object value heap).answer := by
  cases known : heap.view.contents object Layout.object.kind with
  | error stop =>
    obtain ⟨events, run⟩ := pushElement_of_missing known value
    rw [run]
    exact .missing known
  | ok record =>
    cases null : (ObjectField.arrayValues.read record).isNull with
    | true =>
      rw [sound.pushElement_of_null known null]
      have attaching := sound.attachElements accounted known
      rcases run : Heap.attachElements object heap with ⟨stop | array, middle, events⟩ <;>
        rw [run] at attaching
      · rw [bind_apply_of_error run]
        exact .unattached known null attaching
      · rw [answer_bind_of_ok run, state_bind_of_ok run]
        exact .attached known null attaching
    | false =>
      cases elements : heap.view.contents (ObjectField.arrayValues.read record) .elementArray with
      | error stop =>
        obtain ⟨events, run⟩ := sound.pushElement_of_no_array known null elements value
        rw [run]
        exact .astray known null elements
      | ok bytes =>
        rw [sound.pushElement_of_attached known null]
        exact .stored known null elements

/-- An object without elements gets a fresh element array, or is left alone. -/
theorem Sound.attachElements_cases (sound : heap.Sound) (accounted : heap.handles.Accounted)
    (lists : heap.view.Lists object values) (null : (heap.view.elements object).isNull = true) :
    (∃ error after events, Heap.attachElements object heap = ⟨.error (.refused error), after, events⟩ ∧
        after.view.Lists object values ∧
        after.view.elements object = heap.view.elements object) ∨
      ∃ array after events, Heap.attachElements object heap = ⟨.ok array, after, events⟩ ∧
        heap.handles.resolve array = none ∧ after.Sound ∧
        ∃ record bytes, Attached after.view object array record bytes values := by
  obtain ⟨record, known, count, -⟩ := contents_of_lists lists
  rcases lists.cells with ⟨-, rfl⟩ | ⟨attached, -⟩
  · have attaching := sound.attachElements accounted known
    rcases run : Heap.attachElements object heap with ⟨stop | array, after, events⟩ <;>
      rw [run] at attaching
    · have attaching : Attaching object record heap after (.error stop) := attaching
      cases attaching with
      | @refused error made same =>
        have rests (handle : Handle) : View.Rests handle heap.view after.view :=
          ⟨congrArg (Option.map Label.kind) (same handle).1, (same handle).2⟩
        exact .inl ⟨error, after, events, rfl, lists.of_same (rests object).kind
          ((rests object).field _) ((rests object).field _) fun _ => rests _, (rests object).field _⟩
    · have attaching : Attaching object record heap after (.ok array) := attaching
      have whole := sound.length_record known
      cases attaching with
      | attached made dead sound own elements =>
        refine .inr ⟨array, after, events, rfl, dead, sound, _, _, own, ?_, ?_, ?_,
          ne_null_of_kind? (contents_eq_ok elements).1, elements, .nil _⟩
        · rw [Field.length_write, Field.length_write, whole]
        · rw [Field.read_write_apart _ _ (by decide), Field.read_write _ _ whole]
        · rw [Field.read_write_apart _ _ (by decide), Field.read_write_apart _ _ (by decide), count,
            lists.length]
  · rw [null] at attached
    cases attached

/-- A value is appended, or is refused and the list stays. An element array that is there stays, and
one that is attached was no record before. -/
theorem Sound.pushElement_cases (sound : heap.Sound) (accounted : heap.handles.Accounted)
    (lists : heap.view.Lists object values) (value : Value Handle) :
    Pushed object values value (pushElement object value heap).state
        (pushElement object value heap).answer ∧
      ((pushElement object value heap).state.view.elements object = heap.view.elements object ∨
        ((heap.view.elements object).isNull = true ∧ heap.handles.resolve
          ((pushElement object value heap).state.view.elements object) = none)) := by
  obtain ⟨record, known, count, elements⟩ := contents_of_lists lists
  cases null : (heap.view.elements object).isNull with
  | true =>
    rw [sound.pushElement_of_null known (elements ▸ null), count]
    rcases sound.attachElements_cases accounted lists null with
      ⟨error, after, events, run, kept, same⟩ |
        ⟨array, after, events, run, dead, sound', record, bytes, attached⟩
    · rw [bind_apply_of_error run]
      exact ⟨.refused kept, .inl same⟩
    · rw [answer_bind_of_ok run, state_bind_of_ok run]
      have stored := sound'.storeAttached attached lists.length value
      exact ⟨stored.1, .inr ⟨rfl, by rw [stored.2]; exact dead⟩⟩
  | false =>
    rw [sound.pushElement_of_attached known (elements ▸ null), count, elements]
    rcases lists.cells with ⟨null', -⟩ | ⟨-, bytes, array, cells⟩
    · cases null.symm.trans null'
    · have whole := sound.length_record known
      have attached : Attached heap.view object (heap.view.elements object) record bytes values :=
        ⟨known, whole, elements, count ▸ lists.length, null, array, cells⟩
      have stored := sound.storeAttached attached lists.length value
      exact ⟨stored.1, .inl stored.2⟩

end Heap

end HandleHeap
