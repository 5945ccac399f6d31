import HandleHeap.Proofs.Heap.Absent
import HandleHeap.Proofs.Shape.Linking

/-!
# Records that an operation leaves alone

An operation has few records that it may change or end (`Operation.Disturbs`), each of a kind that
the operation asks for. What is done to a record of another kind is refused and changes nothing.

* `rests_of_undisturbed`: every record that an operation does not disturb has the kind and the bytes
  that it had. It may have been moved, pinned or unpinned.
* `rests_perform`: this goes for any operation if the record is no shape.

The shapes in a bucket are written when another one comes or goes, without being disturbed by it.
-/

namespace HandleHeap

open HandleHeap.Action Heap

/-! ## 1. What is done to records of another kind -/

namespace Heap

variable {heap : Heap} {handle : Handle} {kind expected : RecordKind}

theorem Same.rests {after : Heap} (same : Same handle heap after) :
    View.Rests handle heap.view after.view :=
  ⟨by rw [kind?_view, kind?_view, kind?, kind?, same.resolve], same.bytes⟩

/-- Writing to a record changes no kinds. -/
theorem OnlyArena.kind?_view {after : Heap} (only : OnlyArena heap after) (handle : Handle) :
    after.view.kind? handle = heap.view.kind? handle := by
  obtain ⟨arena, rfl⟩ := only
  rw [Heap.kind?_view, Heap.kind?_view]
  rfl

/-- What needs a record of another kind changes nothing. -/
theorem Edits.idle {edit : List UInt8 → Except Stop (List UInt8)} {action : HeapAction Unit}
    (edits : Edits handle expected edit action) (separated : heap.Separated)
    (known : heap.kind? handle = some kind) (differ : kind ≠ expected) :
    (action heap).state = heap := by
  have refused : (heap.view.contents handle expected >>= edit) =
      .error (.refused (.kindMismatch expected kind)) := by
    rw [contents_of_other known differ]
    rfl
  obtain ⟨events, run⟩ := edits.refused separated refused
  rw [run]

/-- The shape before another one is a shape. -/
theorem Separated.kind?_of_precedes (separated : heap.Separated) {previous shape : Handle}
    (precedes : heap.Precedes previous shape) : heap.kind? previous = some .shape := by
  obtain ⟨hash, distance, read, rfl, leads, -⟩ := precedes
  rw [separated.answer_tryGet] at read
  cases known : heap.view.contents shape Layout.shape.kind with
  | error stop =>
    rw [known] at read
    cases read
  | ok bytes =>
    obtain ⟨old, before⟩ := separated.contents_of_leads known leads
    exact (contents_eq_ok before).1

theorem elements_of_has (separated : heap.Separated) {object array : Handle}
    (has : heap.HasElements object array) : heap.view.elements object = array ∧
      ∃ record, heap.view.contents object .object = .ok record ∧
        ObjectField.arrayValues.read record = array := by
  rw [HasElements, separated.answer_tryGet] at has
  cases known : heap.view.contents object Layout.object.kind with
  | error stop =>
    rw [known] at has
    cases has
  | ok record =>
    rw [known] at has
    have points : ObjectField.arrayValues.read record = array := Except.ok.inj has
    exact ⟨(field_of_contents known _).trans points, record, known, points⟩

/-- Where the elements of an object should be is another object. -/
theorem setElement_of_other (sound : heap.Sound) {object : Handle}
    (has : heap.HasElements object handle) (known : heap.kind? handle = some kind)
    (differ : kind ≠ .elementArray) (index : UInt32) (value : Value Handle) :
    (setElement object index value heap).state = heap := by
  rw [setElement, state_look_bind]
  split
  · next array found =>
    obtain ⟨count, -, rest⟩ := Report.bind_eq_ok found
    split at rest
    · cases rest
    · cases Except.ok.inj (rest.symm.trans has)
      exact (edits_setCell handle index value).idle sound.toSeparated known differ
  · rfl

theorem pushElement_of_other (sound : heap.Sound) {object : Handle}
    (has : heap.HasElements object handle) (known : heap.kind? handle = some kind)
    (differ : kind ≠ .elementArray) (value : Value Handle) :
    (pushElement object value heap).state = heap := by
  obtain ⟨-, record, own, rfl⟩ := elements_of_has sound.toSeparated has
  obtain ⟨events, run⟩ := sound.pushElement_of_no_array own (ne_null_of_kind? known)
    (contents_of_other known differ) value
  rw [run]

end Heap

/-! ## 2. Any operation -/

namespace Operation

/-- The records other than shapes that an operation may change or end. -/
def Disturbs (heap : Heap) : Operation Handle → Handle → Prop
  | @set _ layout _ target .. => fun handle =>
    handle = target ∧ heap.kind? handle = some layout.kind
  | overwrite target .. | invalidate target => (· = target)
  | setSlot storage .. | setSlotValue storage .. | setSlotGetter storage ..
  | setSlotSetter storage .. | setSlotVarRef storage .. | growProperties storage .. =>
    fun handle => handle = storage ∧ heap.kind? handle = some .propertyArray
  | setElement object .. => fun handle =>
    heap.HasElements object handle ∧ heap.kind? handle = some .elementArray
  | pushElement object .. => fun handle =>
    (handle = object ∧ heap.kind? handle = some .object) ∨
      (heap.HasElements object handle ∧ heap.kind? handle = some .elementArray)
  | _ => fun _ => False

/-- Operations that put shapes into buckets or take them out, and so write the links of others. -/
def links : Operation Handle → Bool
  | hashShape .. | unhashShape .. | invalidate .. => true
  | _ => false

variable {heap : Heap} {handle : Handle} {kind : RecordKind}

/-- An operation leaves alone what it does not disturb, if that is no shape whose link it may
write. -/
theorem rests_of_undisturbed (sound : heap.Sound) (operation : Operation Handle)
    (onward : operation.rewinds = false) (known : heap.kind? handle = some kind)
    (unlinked : kind = .shape → operation.links = false)
    (spared : ¬ operation.Disturbs heap handle) :
    View.Rests handle heap.view (operation.perform heap).state.view := by
  have live : ¬ heap.Dead handle := by
    intro dead
    have alive := isLive_of_kind? known
    exact Bool.false_ne_true (dead.symm.trans alive)
  have idle {after : Heap} (same : after = heap) : View.Rests handle heap.view after.view :=
    same ▸ .refl ..
  have other {needed : RecordKind} (about : operation.subject? = some handle)
      (needs : operation.needs? = some needed) (differ : kind ≠ needed) :
      View.Rests handle heap.view (operation.perform heap).state.view :=
    idle (perform_of_absent operation about needs (contents_of_other known differ)).state
  -- What the operation does not write is the same; what it may write is looked at case by case.
  by_cases written : operation.Writes heap handle
  · cases operation with
    | set _ _ _ | setSlot _ _ _ | setSlotValue _ _ _ | setSlotGetter _ _ _ | setSlotSetter _ _ _
    | setSlotVarRef _ _ _ | growProperties _ _ =>
      cases written
      exact other rfl rfl fun same => spared ⟨rfl, same ▸ known⟩
    | overwrite target start source => exact absurd written spared
    | setElement object index value =>
      exact idle ((state_bind_pure ..).trans (setElement_of_other sound written known
        (fun same => spared ⟨written, same ▸ known⟩) index value))
    | pushElement object value =>
      rcases written with rfl | has
      · exact other rfl rfl fun same => spared (.inl ⟨rfl, same ▸ known⟩)
      · exact idle ((state_bind_pure ..).trans (pushElement_of_other sound has known
          (fun same => spared (.inr ⟨has, same ▸ known⟩)) value))
    | relocate target =>
      rw [show ((relocate target).perform heap).state = (Heap.relocate target heap).state from
        state_bind_pure ..]
      exact (sound.relocate target).rests handle
    | pin target =>
      rw [show ((pin target).perform heap).state = (Heap.setPinned target true heap).state from
        state_bind_pure ..]
      exact (sound.setPinned target true).rests handle
    | unpin target =>
      rw [show ((unpin target).perform heap).state = (Heap.setPinned target false heap).state from
        state_bind_pure ..]
      exact (sound.setPinned target false).rests handle
    | hashShape target =>
      cases written
      exact other rfl rfl fun same => nomatch unlinked same
    | unhashShape target =>
      rcases written with rfl | precedes
      · exact other rfl rfl fun same => nomatch unlinked same
      · cases known.symm.trans (sound.kind?_of_precedes precedes)
        cases unlinked rfl
    | invalidate target =>
      rcases written with own | ⟨-, precedes⟩
      · exact absurd own spared
      · cases known.symm.trans (sound.kind?_of_precedes precedes)
        cases unlinked rfl
    | reset | teardown => cases onward
    | allocObject | allocShape | allocProperties | allocElements | internShape =>
      exact absurd written live
    | _ => exact absurd written id
  · have leaves := leaves_perform sound operation onward
    exact (leaves.same (not_or.mpr ⟨written, live⟩)).rests

/-- No other record than a shape has a link. -/
theorem rests_perform (sound : heap.Sound) (operation : Operation Handle)
    (onward : operation.rewinds = false) (known : heap.kind? handle = some kind)
    (shape : kind ≠ .shape) (spared : ¬ operation.Disturbs heap handle) :
    View.Rests handle heap.view (operation.perform heap).state.view :=
  rests_of_undisturbed sound operation onward known (absurd · shape) spared

end Operation

end HandleHeap
