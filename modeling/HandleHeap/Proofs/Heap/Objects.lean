import HandleHeap.Proofs.Heap.Effects

/-!
# New objects

What is known of an object when it has just been made: its handle named nothing before, and its
bytes are `newObject`. A property array that is made along with it is another fresh record, whose
slots are all empty (`MadeObject`).
-/

namespace HandleHeap.Heap

open HandleHeap.Action

variable {heap : Heap} {kind : RecordKind} {size : Nat}

/-! ## 1. The other records -/

theorem Same.contents {handle : Handle} {after : Heap} (same : Same handle heap after) :
    after.view.contents handle kind = heap.view.contents handle kind := by
  have kinds : after.view.kind? handle = heap.view.kind? handle := by
    rw [kind?_view, kind?_view, Heap.kind?, Heap.kind?, same.resolve]
  simp only [View.contents, kinds, show after.view.bytes handle = heap.view.bytes handle from
    same.bytes]

/-- The other records, when one was made. -/
theorem Sound.others_of_made (sound : heap.Sound) (allowed : 0 < size → kind.Allows size)
    {handle : Handle} (made : (Heap.allocRecord kind size heap).answer = .ok handle)
    {other : Handle} (differ : other ≠ handle) :
    Same other heap (Heap.allocRecord kind size heap).state := by
  by_cases dead : heap.Dead other
  · have made' := sound.allocRecord allowed
    rw [made] at made'
    obtain ⟨labels, bytes⟩ := made'.resolve_of_ok.2.2 other differ
    have none := dead_iff.mp dead
    rw [resolve_labels, resolve_labels, none] at labels
    exact ⟨(Option.map_eq_none_iff.mp labels).trans none.symm, bytes⟩
  · exact (leaves_allocRecord sound allowed).same dead

/-- A new record had a handle that named nothing. -/
theorem Sound.resolve_of_made (sound : heap.Sound) (allowed : 0 < size → kind.Allows size)
    {handle : Handle} (made : (Heap.allocRecord kind size heap).answer = .ok handle) :
    heap.handles.resolve handle = none := by
  have made' := sound.allocRecord allowed
  rw [made] at made'
  have none := made'.resolve_of_ok.1
  rw [resolve_labels] at none
  exact Option.map_eq_none_iff.mp none

/-! ## 2. Filling in an object -/

/-- The bytes of a new object. -/
def newObject (shape props : Handle) (classId : UInt16) : List UInt8 :=
  ObjectField.extensible.write true (ObjectField.classId.write classId
    (ObjectField.props.write props (ObjectField.shape.write shape
      (List.replicate Layout.object.size 0))))

/-- The other fields of a new object are zeroed. -/
theorem read_newObject {scalar : Scalar} {field : Field .object scalar} (shape props : Handle)
    (classId : UInt16) (first : field.Apart ObjectField.shape)
    (second : field.Apart ObjectField.props) (third : field.Apart ObjectField.classId)
    (last : field.Apart ObjectField.extensible) :
    field.read (newObject shape props classId) = scalar.sentinel := by
  rw [newObject, Field.read_write_apart _ _ last, Field.read_write_apart _ _ third,
    Field.read_write_apart _ _ second, Field.read_write_apart _ _ first, Field.read_zeros]

theorem props_newObject (shape props : Handle) (classId : UInt16) :
    ObjectField.props.read (newObject shape props classId) = props := by
  rw [newObject, Field.read_write_apart _ _ (by decide), Field.read_write_apart _ _ (by decide),
    Field.read_write _ _ (by simp)]

/-- Filling in a new object answers its handle. -/
theorem Sound.fillObject_eq (sound : heap.Sound) {object : Handle} {bytes : List UInt8}
    (known : heap.view.contents object .object = .ok bytes) (shape props : Handle)
    (classId : UInt16) :
    ∃ after, fillObject shape object props classId heap = ⟨.ok object, after, []⟩ ∧
      after.view = heap.view.withBytes object (some (ObjectField.extensible.write true
        (ObjectField.classId.write classId (ObjectField.props.write props
          (ObjectField.shape.write shape bytes))))) := by
  obtain ⟨a, setShape, soundA, viewA⟩ := sound.set_eq known ObjectField.shape shape
  have known := (congrArg (·.contents object .object) viewA).trans
    (View.contents_withBytes_self _ known _)
  obtain ⟨b, setProps, soundB, viewB⟩ := soundA.set_eq known ObjectField.props props
  have known := (congrArg (·.contents object .object) viewB).trans
    (View.contents_withBytes_self _ known _)
  obtain ⟨c, setClass, soundC, viewC⟩ := soundB.set_eq known ObjectField.classId classId
  have known := (congrArg (·.contents object .object) viewC).trans
    (View.contents_withBytes_self _ known _)
  obtain ⟨d, setExtensible, -, viewD⟩ := soundC.set_eq known ObjectField.extensible true
  refine ⟨d, ?_, ?_⟩
  · unfold fillObject
    rw [bind_apply_of_ok setShape, bind_apply_of_ok setProps, bind_apply_of_ok setClass,
      bind_apply_of_ok setExtensible]
    rfl
  · rw [viewD, viewC, viewB, viewA, View.withBytes_withBytes, View.withBytes_withBytes,
      View.withBytes_withBytes]

/-- Filling in zeros gives a new object. -/
theorem Sound.fillObject_zeros (sound : heap.Sound) {object : Handle}
    (known : heap.view.contents object .object = .ok (List.replicate Layout.object.size 0))
    (shape props : Handle) (classId : UInt16) :
    ∃ after, fillObject shape object props classId heap = ⟨.ok object, after, []⟩ ∧
      after.view = heap.view.withBytes object (some (newObject shape props classId)) :=
  sound.fillObject_eq known shape props classId

/-! ## 3. Making an object -/

/-- An object was made under a handle that named nothing. Its property array is a fresh record of
empty slots, or it has none if no slots were asked for. -/
structure MadeObject (shape object : Handle) (classId : UInt16) (slots : UInt32)
    (before after : Heap) : Prop where
  fresh : before.handles.resolve object = none
  record : ∃ props, after.view.contents object .object = .ok (newObject shape props classId) ∧
    if 0 < slots then before.handles.resolve props = none ∧
      after.view.contents props .propertyArray = .ok (List.replicate (slots.toNat * Slot.size) 0)
    else props = .null

/-- A property array that was made for an object is a fresh record of empty slots, and the object
stays as it is. -/
theorem Sound.furnishObject_ok (sound : heap.Sound) {object result : Handle} {bytes : List UInt8}
    (known : heap.view.contents object .object = .ok bytes) {shape : Handle} {classId : UInt16}
    {slots : UInt32} (ok : (furnishObject shape object classId slots heap).answer = .ok result) :
    ∃ props after, heap.handles.resolve props = none ∧ props ≠ object ∧ after.Sound ∧
      after.view.contents object .object = .ok bytes ∧
      after.view.contents props .propertyArray =
        .ok (List.replicate (slots.toNat * Slot.size) 0) ∧
      (fillObject shape object props classId after).answer = .ok result ∧
      (furnishObject shape object classId slots heap).state =
        (fillObject shape object props classId after).state := by
  unfold furnishObject at ok ⊢
  rcases run : allocProperties slots heap with ⟨(e | fault) | props, after, events⟩
  · have tried := attempt_of_refused run
    rw [answer_bind_of_ok tried] at ok
    obtain ⟨-, -, refused⟩ := bind_eq_ok ok
    cases refused
  · rw [bind_apply_of_error (attempt_of_fault run)] at ok
    cases ok
  · have tried := attempt_of_ok run
    have array : (Heap.allocRecord .propertyArray (slots.toNat * Slot.size) heap).answer =
        .ok props := congrArg Outcome.answer run
    have allowed : 0 < slots.toNat * Slot.size →
        RecordKind.propertyArray.Allows (slots.toNat * Slot.size) := allows_slots
    have dead := sound.resolve_of_made allowed array
    have differ : object ≠ props := by
      rintro rfl
      obtain ⟨placement, live, -⟩ := kind?_eq_some (contents_eq_ok known).1
      cases live.symm.trans dead
    have kept := sound.others_of_made allowed array differ
    have made := sound.allocRecord allowed
    rw [array] at made
    rw [show Heap.allocRecord _ _ heap = _ from run] at kept made
    rw [answer_bind_of_ok tried] at ok
    rw [state_bind_of_ok tried]
    exact ⟨props, after, dead, Ne.symm differ, made.sound, kept.contents.trans known, made.contents,
      ok, rfl⟩

/-- An object that is made for a number of slots has them. -/
theorem Sound.makeObject_ok (sound : heap.Sound) {shape object : Handle} {classId : UInt16}
    {slots : UInt32} (ok : (makeObject shape classId slots heap).answer = .ok object) :
    MadeObject shape object classId slots heap (makeObject shape classId slots heap).state := by
  have allowed : 0 < Layout.object.size → RecordKind.object.Allows Layout.object.size :=
    fun _ => rfl
  unfold makeObject at ok ⊢
  rcases run : Heap.allocRecord .object Layout.object.size heap with ⟨stop | made, middle, events⟩
  · rw [bind_apply_of_error run] at ok
    cases ok
  · have made' := congrArg Outcome.answer run
    have dead := sound.resolve_of_made allowed made'
    have new := sound.allocRecord allowed
    have others {other : Handle} (differ : other ≠ made) :=
      sound.others_of_made allowed made' differ
    rw [run] at new others
    rw [answer_bind_of_ok run] at ok
    rw [state_bind_of_ok run]
    split at ok
    · next some =>
      rw [if_pos some]
      obtain ⟨props, after, dead', differ, sound', kept, array, filled, state⟩ :=
        new.sound.furnishObject_ok new.contents ok
      obtain ⟨last, fill, view⟩ := sound'.fillObject_zeros kept shape props classId
      cases Except.ok.inj ((congrArg Outcome.answer fill).symm.trans filled)
      refine (congrArg (MadeObject shape object classId slots heap)
        (state.trans (congrArg Outcome.state fill))).mpr ⟨dead, props, ?_, ?_⟩
      · rw [view]
        exact View.contents_withBytes_self _ kept _
      · rw [if_pos some, view, View.contents_withBytes_ne _ differ]
        exact ⟨(others differ).resolve.symm.trans dead', array⟩
    · next none =>
      rw [if_neg none]
      obtain ⟨last, fill, view⟩ := new.sound.fillObject_zeros new.contents shape .null classId
      cases Except.ok.inj ((congrArg Outcome.answer fill).symm.trans ok)
      refine (congrArg (MadeObject shape object classId slots heap)
        (congrArg Outcome.state fill)).mpr ⟨dead, .null, ?_, by rw [if_neg none]⟩
      rw [view]
      exact View.contents_withBytes_self _ new.contents _

/-- A new object has as many slots as its shape asks for. -/
theorem Sound.allocObject_ok (sound : heap.Sound) {shape object : Handle} {classId : UInt16}
    (ok : (Heap.allocObject shape classId heap).answer = .ok object) :
    MadeObject shape object classId (heap.view.field shape ShapeField.propSize) heap
      (Heap.allocObject shape classId heap).state := by
  rw [allocObject_eq] at ok ⊢
  split at ok
  · next null =>
    have none : heap.view.field shape ShapeField.propSize = 0 :=
      Except.ok.inj ((sound.answer_get shape ShapeField.propSize).symm.trans
        (answer_get_null heap null ShapeField.propSize))
    rw [if_pos null, none]
    exact sound.makeObject_ok ok
  · next named =>
    rw [if_neg named]
    rcases run : heap.tryGet shape ShapeField.propSize with ⟨stop | slots, events⟩
    · rw [look_bind_of_error (Heap.tryGet · shape ShapeField.propSize) run] at ok
      cases ok
    · have asked : heap.view.field shape ShapeField.propSize = slots := by
        have answer := sound.answer_get shape ShapeField.propSize
        rw [get, run] at answer
        exact (Except.ok.inj answer).symm
      have run := look_apply (Heap.tryGet · shape ShapeField.propSize) run
      rw [answer_bind_of_ok run] at ok
      rw [state_bind_of_ok run, asked]
      exact sound.makeObject_ok ok

end HandleHeap.Heap
