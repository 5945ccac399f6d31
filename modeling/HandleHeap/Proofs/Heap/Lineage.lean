import HandleHeap.Proofs.Heap.Pinning
import HandleHeap.Proofs.Heap.Resting
import HandleHeap.Proofs.Shape.Twins

/-!
# What prototypes are read from

The prototype of an object is read in two steps: its shape, from the record of the object, and the
prototype of that, from the record of the shape. Only a caller who writes these fields changes them,
or one who ends a record. Making records, moving and pinning them, filling slots and elements, and
putting shapes into buckets does not, however often a handle is reused for it.

* `Operation.tame`: the operations that write no field for their caller and end no record.
* `SameLineage`: every live handle stays live, and has the shape and the prototype that it had.
* `sameLineage_perform`, `sameLineage_run`: tame operations keep the lineage of a sound heap.
-/

namespace HandleHeap

open HandleHeap.Action

/-! ## 1. Fields -/

/-- Other links and marks leave the other fields of shapes. -/
theorem View.Relinked.field {before after : View} (h : Relinked before after) {scalar : Scalar}
    {field : Field .shape scalar} (next : field.Apart ShapeField.hashNext)
    (hashed : field.Apart ShapeField.isHashed) (handle : Handle) :
    after.field handle field = before.field handle field := by
  rw [View.field, View.field, View.contents, View.contents, h.kind?]
  cases known : before.kind? handle with
  | none => rfl
  | some kind =>
    by_cases shape : kind = Layout.shape.kind
    · subst shape
      simp only [if_true]
      exact (h.shapes handle known).read next hashed
    · simp only [if_neg shape]

namespace Heap

variable {heap : Heap}

/-- A record of another kind has no such field. -/
theorem field_of_other {handle : Handle} {kind : RecordKind} {layout : Layout} {scalar : Scalar}
    (known : heap.kind? handle = some kind) (differ : kind ≠ layout.kind)
    (field : Field layout scalar) : heap.view.field handle field = scalar.sentinel := by
  rw [View.field, contents_of_other known differ]

/-! ## 2. Pushes -/

section Push

variable {object array : Handle} {record bytes : List UInt8} {count : UInt32}
  {value : Value Handle} {scalar : Scalar} {field : Field .object scalar}

theorem field_append (view : View) (known : view.contents object .object = .ok record)
    (differ : object ≠ array) (count' : field.Apart ObjectField.arrayCount) :
    (view.append object array record bytes count value).field object field =
      field.read record := by
  have kept : (view.withBytes array
      (some (splice bytes (count.toNat * Value.size) value.encode))).contents object .object =
        .ok record := (View.contents_withBytes_ne view differ _ _).trans known
  have written : (view.append object array record bytes count value).contents object
      Layout.object.kind = .ok (ObjectField.arrayCount.write (count + 1) record) :=
    View.contents_withBytes_self _ kept _
  rw [View.field, written]
  exact Field.read_write_apart ObjectField.arrayCount (count + 1) count' record

/-- Storing an element leaves what the object has besides its count. -/
theorem Storing.field_eq {capacity : UInt32} {after : Heap} {answer : Except Stop UInt32}
    (storing : Storing object array record bytes capacity count value heap after answer)
    (known : heap.view.contents object .object = .ok record) (differ : object ≠ array)
    (count' : field.Apart ObjectField.arrayCount) :
    after.view.field object field = field.read record := by
  have own : heap.view.field object field = field.read record := field_of_contents known field
  cases storing with
  | stored room sound view =>
    rw [view]
    exact field_append heap.view known differ count'
  | grown room sound view =>
    rw [view]
    exact field_append (heap.asked _) known differ count'
  | full full refused view =>
    rw [view]
    exact own
  | beyond past grown view =>
    rw [view, View.field, View.contents_withBytes_ne _ differ]
    exact own

/-- A push writes the count of an object, its element array and its mark, and no other field. -/
theorem Sound.field_pushElement (sound : heap.Sound) (accounted : heap.handles.Accounted)
    (count' : field.Apart ObjectField.arrayCount) (values : field.Apart ObjectField.arrayValues)
    (fast : field.Apart ObjectField.fastArray) (object : Handle) (value : Value Handle) :
    (pushElement object value heap).state.view.field object field =
      heap.view.field object field := by
  have pushing := sound.pushing accounted object value
  generalize (pushElement object value heap).answer = answer,
    (pushElement object value heap).state = after at pushing ⊢
  cases pushing with
  | missing | astray => rfl
  | unattached known null attaching =>
    cases attaching with
    | refused made same =>
      have rests : View.Rests object heap.view after.view :=
        ⟨congrArg (Option.map Label.kind) (same object).1, (same object).2⟩
      exact rests.field field
  | @attached record middle array known null attaching =>
    have own : heap.view.field object field = field.read record := field_of_contents known field
    cases attaching with
    | attached made dead sound' own' elements =>
      have points := arrayValues_attached (sound.length_record known) array
      have storing := sound'.storeElement own' points elements
        (ObjectField.arrayCount.read record) value
      rw [storing.field_eq own' (ne_of_contents own' elements) count',
        Field.read_write_apart _ _ fast, Field.read_write_apart _ _ values, own]
  | @stored record bytes known some elements =>
    have own : heap.view.field object field = field.read record := field_of_contents known field
    have storing := sound.storeElement known rfl elements (ObjectField.arrayCount.read record) value
    rw [own]
    exact storing.field_eq known (ne_of_contents known elements) count'

end Push

end Heap

/-! ## 3. One operation -/

namespace Operation

open Heap

variable {heap : Heap} {handle : Handle} {kind : RecordKind} {operation : Operation Handle}

/-- Operations that neither write a field or raw bytes for their caller nor end a record. -/
def tame {ρ : Type} : Operation ρ → Bool
  | set .. | overwrite .. | invalidate .. | reset | teardown => false
  | _ => true

theorem rewinds_of_tame (tame : operation.tame = true) : operation.rewinds = false := by
  cases operation <;> first | rfl | cases tame

theorem lasts_of_tame (tame : operation.tame = true) : ¬ operation.Ends handle := by
  cases operation <;> first | exact id | cases tame

/-- Only an operation that is there for it changes the kind of a live handle. -/
theorem kind?_perform (known : heap.kind? handle = some kind) (lasts : ¬ operation.Ends handle) :
    (operation.perform heap).state.kind? handle = some kind := by
  obtain ⟨placement, live, same⟩ := kind?_eq_some known
  have turns := operation.turns_perform heap handle
  obtain ⟨after, is⟩ : ∃ after, (operation.perform heap).state.handles.resolve handle = after :=
    ⟨_, rfl⟩
  rw [live, is] at turns
  rw [Heap.kind?, is]
  cases turns with
  | kept => exact congrArg some same
  | moved => exact congrArg some same
  | repinned => exact congrArg some same
  | ended ends => exact absurd ends lasts

/-- A field needs to be looked at only in a record that has it. -/
theorem field_perform (tame : operation.tame = true) {layout : Layout} {scalar : Scalar}
    (field : Field layout scalar)
    (own : heap.kind? handle = some layout.kind →
      (operation.perform heap).state.view.field handle field = heap.view.field handle field)
    (known : heap.kind? handle = some kind) :
    (operation.perform heap).state.view.field handle field = heap.view.field handle field := by
  by_cases same : kind = layout.kind
  · exact own (same ▸ known)
  · rw [field_of_other known same, field_of_other (kind?_perform known (lasts_of_tame tame)) same]

/-- A tame operation writes arrays, and an object to push an element to it. -/
theorem disturbs_cases (tame : operation.tame = true) (disturbed : operation.Disturbs heap handle) :
    heap.kind? handle = some .propertyArray ∨ heap.kind? handle = some .elementArray ∨
      heap.kind? handle = some .object ∧ ∃ value, operation = .pushElement handle value := by
  cases operation with
  | set | overwrite | invalidate => cases tame
  | setSlot | setSlotValue | setSlotGetter | setSlotSetter | setSlotVarRef | growProperties =>
    exact .inl disturbed.2
  | setElement => exact .inr (.inl disturbed.2)
  | pushElement object value =>
    rcases disturbed with ⟨rfl, found⟩ | ⟨-, found⟩
    · exact .inr (.inr ⟨found, value, rfl⟩)
    · exact .inr (.inl found)
  | _ => exact absurd disturbed id

/-- A tame operation leaves the shape of an object. It may write the record to push an element. -/
theorem shape_perform (sound : heap.Sound) (accounted : heap.handles.Accounted)
    (tame : operation.tame = true) (known : heap.kind? handle = some .object) :
    (operation.perform heap).state.view.field handle ObjectField.shape =
      heap.view.field handle ObjectField.shape := by
  by_cases disturbed : operation.Disturbs heap handle
  · rcases disturbs_cases tame disturbed with slots | elements | ⟨-, value, rfl⟩
    · cases known.symm.trans slots
    · cases known.symm.trans elements
    · rw [show (perform (.pushElement handle value) heap).state = _ from state_bind_pure ..]
      exact sound.field_pushElement accounted (by decide) (by decide) (by decide) handle value
  · exact (rests_perform sound operation (rewinds_of_tame tame) known (by decide)
      disturbed).field _

/-- A tame operation leaves the prototype of a shape. It may write the link and the mark. -/
theorem proto_perform (sound : heap.Sound) (tame : operation.tame = true)
    (known : heap.kind? handle = some .shape) :
    (operation.perform heap).state.view.field handle ShapeField.proto =
      heap.view.field handle ShapeField.proto := by
  have spared : ¬ operation.Disturbs heap handle := by
    intro disturbed
    rcases disturbs_cases tame disturbed with found | found | ⟨found, -⟩ <;>
      cases known.symm.trans found
  cases links : operation.links with
  | false =>
    exact (rests_of_undisturbed sound operation (rewinds_of_tame tame) known (fun _ => links)
      spared).field _
  | true =>
    cases operation with
    | hashShape shape =>
      rw [show (perform (.hashShape shape) heap).state = _ from state_bind_pure ..]
      exact ((relinks_hashShape shape).step heap sound).2.field (by decide) (by decide) handle
    | unhashShape shape =>
      rw [show (perform (.unhashShape shape) heap).state = _ from state_bind_pure ..]
      exact ((relinks_unhashShape shape).step heap sound).2.field (by decide) (by decide) handle
    | invalidate => cases tame
    | _ => cases links

end Operation

/-! ## 4. Runs -/

namespace Heap

/-- Every live handle stays live, and has the shape and the prototype that it had. -/
structure SameLineage (before after : Heap) : Prop where
  live : ∀ {handle}, before.isLive handle = true → after.isLive handle = true
  shape : ∀ {handle}, before.isLive handle = true →
    after.view.field handle ObjectField.shape = before.view.field handle ObjectField.shape
  proto : ∀ {handle}, before.isLive handle = true →
    after.view.field handle ShapeField.proto = before.view.field handle ShapeField.proto

theorem SameLineage.refl (heap : Heap) : SameLineage heap heap := ⟨id, fun _ => rfl, fun _ => rfl⟩

theorem SameLineage.trans {a b c : Heap} (first : SameLineage a b) (second : SameLineage b c) :
    SameLineage a c :=
  ⟨fun live => second.live (first.live live),
    fun live => (second.shape (first.live live)).trans (first.shape live),
    fun live => (second.proto (first.live live)).trans (first.proto live)⟩

variable {heap : Heap}

theorem exists_kind?_of_isLive {handle : Handle} (live : heap.isLive handle = true) :
    ∃ kind, heap.kind? handle = some kind := by
  obtain ⟨placement, known⟩ := HandleTable.isLive_iff.mp live
  exact ⟨placement.kind, congrArg (Option.map Placement.kind) known⟩

theorem sameLineage_perform (sound : heap.Sound) (accounted : heap.handles.Accounted)
    {operation : Operation Handle} (tame : operation.tame = true) :
    SameLineage heap (operation.perform heap).state := by
  refine ⟨fun live => isLive_perform live (Operation.lasts_of_tame tame), fun live => ?_,
    fun live => ?_⟩
  · obtain ⟨kind, known⟩ := exists_kind?_of_isLive live
    exact Operation.field_perform tame _ (Operation.shape_perform sound accounted tame) known
  · obtain ⟨kind, known⟩ := exists_kind?_of_isLive live
    exact Operation.field_perform tame _ (Operation.proto_perform sound tame) known

/-- A run of tame operations keeps the lineage, as long as the bump offset does not wrap. -/
theorem sameLineage_run {config : Config} {requested : Nat}
    (reached : Reached config requested heap) {operations : List (Operation Handle)}
    (tame : ∀ operation ∈ operations, operation.tame = true)
    (few : (runCounting requested heap operations).1 < sizeLimit) :
    SameLineage heap (heap.run operations) := by
  induction operations generalizing requested heap with
  | nil => exact .refl heap
  | cons operation rest ih =>
    have onward : ∀ other ∈ operation :: rest, other.rewinds = false :=
      fun other member => Operation.rewinds_of_tame (tame other member)
    have before := Nat.lt_of_le_of_lt (le_runCounting requested heap onward) few
    obtain ⟨first, rest⟩ := List.forall_mem_cons.mp tame
    obtain ⟨sound, -⟩ := (tracked_of_reached reached).sound before
    have step := sameLineage_perform sound (accounted_of_reached reached) first
    exact step.trans (ih (reached.perform operation) rest few)

end Heap

end HandleHeap
