import HandleHeap.Proofs.Element.Pushing
import HandleHeap.Proofs.Heap.Inert
import HandleHeap.Proofs.Heap.Reachable

/-!
# Operations on a record that is not there

An operation that is about a record looks the handle up before it does anything else. A handle that
is not live, or that names a record of another kind than the operation needs, is refused there, or
answered with the value that stands for nothing. The heap stays as it is, the arena included.

* `Operation.subject?`, `Operation.needs?`: the handle that an operation is about, and the kind of
  record that it needs.
* `Operation.absent`: what the operation answers where there is no such record.
* `Operation.perform_of_absent`, `Operation.perform_of_dead`: an operation that needs a record of a
  kind where there is none, and any operation on a handle that is not live.
* `inert_of_absent`: both, with the error that tells what was wrong.
-/

namespace HandleHeap

open HandleHeap.Action

/-! ## 1. Work that does nothing -/

namespace Report

variable {ε α β : Type}

theorem answer_bind_eq_error {first : Report ε α} {next : α → Report ε β} {e : ε}
    (h : first.answer = .error e) : (first >>= next).answer = .error e := by
  obtain ⟨answer, events⟩ := first
  cases h
  rfl

theorem answer_withDefault_of_refused {report : Report Stop α} {error : HeapError}
    (h : report.answer = .error (.refused error)) (default : α) :
    (report.withDefault default).answer = .ok default := by
  obtain ⟨answer, events⟩ := report
  cases h
  rfl

end Report

/-- An action answers and leaves the state as it is. -/
structure Action.Idles {ε σ α : Type} (action : Action ε σ α) (state : σ) (answer : Except ε α) :
    Prop where
  answer : (action state).answer = answer
  state : (action state).state = state

namespace Action.Idles

variable {ε σ α β : Type} {state : σ}

theorem of_run {action : Action ε σ α} {answer : Except ε α} {events : List Event}
    (run : action state = ⟨answer, state, events⟩) : action.Idles state answer :=
  ⟨congrArg Outcome.answer run, congrArg Outcome.state run⟩

theorem look {report : σ → Report ε α} {answer : Except ε α} (h : (report state).answer = answer) :
    (look report).Idles state answer :=
  ⟨h, rfl⟩

theorem pure (a : α) : (Pure.pure a : Action ε σ α).Idles state (.ok a) := ⟨rfl, rfl⟩

variable {first : Action ε σ α} {next : α → Action ε σ β}

/-- Nothing is done after an error. -/
theorem bind_error {e : ε} (idles : first.Idles state (.error e)) :
    (first >>= next).Idles state (.error e) := by
  rcases run : first state with ⟨answer, after, events⟩
  cases (congrArg Outcome.answer run).symm.trans idles.answer
  cases (congrArg Outcome.state run).symm.trans idles.state
  exact of_run (bind_apply_of_error run)

theorem bind_ok {a : α} {answer : Except ε β} (idles : first.Idles state (.ok a))
    (rest : (next a).Idles state answer) : (first >>= next).Idles state answer := by
  rcases run : first state with ⟨answer, after, events⟩
  cases (congrArg Outcome.answer run).symm.trans idles.answer
  cases (congrArg Outcome.state run).symm.trans idles.state
  exact ⟨(answer_bind_of_ok run).trans rest.answer, (state_bind_of_ok run).trans rest.state⟩

end Action.Idles

/-! ## 2. What an operation is about -/

namespace Operation

/-- The handle of the record that an operation reads, changes, ends, makes a root, or lays a new
object out by. -/
def subject? : Operation Handle → Option Handle
  | allocObject shape _ => if shape.isNull then none else some shape
  | kind target | isLive target | isPinned target | invalidate target | get target _
  | tryGet target _ | set target _ _ | bytes target | overwrite target _ _ | prototype target
  | slotCapacity target | slot target _ | trySlot target _ | setSlot target _ _
  | slotValue target _ | setSlotValue target _ _ | slotGetter target _ | slotSetter target _
  | slotVarRef target _ | setSlotGetter target _ _ | setSlotSetter target _ _
  | setSlotVarRef target _ _ | growProperties target _ | elementCapacity target
  | element target _ | tryElement target _ | setElement target _ _ | pushElement target _
  | relocate target | pin target | unpin target | addRoot target | setRoot _ target
  | hashShape target | unhashShape target => some target
  | _ => none

/-- The kind of record that an operation needs. The others take every kind. -/
def needs? : Operation Handle → Option RecordKind
  | allocObject .. | hashShape _ | unhashShape _ => some .shape
  | @get _ layout _ _ _ | @tryGet _ layout _ _ _ | @set _ layout _ _ _ _ => some layout.kind
  | prototype _ | elementCapacity _ | element .. | tryElement .. | setElement ..
  | pushElement .. => some .object
  | slotCapacity _ | slot .. | trySlot .. | setSlot .. | slotValue .. | setSlotValue ..
  | slotGetter .. | slotSetter .. | slotVarRef .. | setSlotGetter .. | setSlotSetter ..
  | setSlotVarRef .. | growProperties .. => some .propertyArray
  | _ => none

/-- What an operation answers where the record it is about is not there: the error, or the value
that stands for nothing. -/
def absent (error : HeapError) : Operation Handle → Except Stop (Answer Handle)
  | @get _ _ scalar _ _ => .ok (.scalar scalar scalar.sentinel)
  | slotCapacity _ | elementCapacity _ => .ok (.number 0)
  | slot .. => .ok (.slot .empty)
  | slotValue .. | element .. => .ok (.value .undefined)
  | slotGetter .. | slotSetter .. | slotVarRef .. | prototype _ => .ok (.handle .null)
  | isLive _ | isPinned _ | invalidate _ => .ok (.flag false)
  | kind _ => .ok (.kind none)
  | bytes _ => .ok (.bytes none)
  | overwrite .. => .ok (.overwritten none)
  | _ => .error (.refused error)

end Operation

namespace Heap

variable {heap : Heap} {handle : Handle}

theorem kind?_of_dead (dead : heap.Dead handle) : heap.kind? handle = none := by
  rw [kind?, dead_iff.mp dead]
  rfl

theorem contents_of_dead (dead : heap.Dead handle) (expected : RecordKind) :
    heap.view.contents handle expected = .error (.refused .invalidHandle) := by
  rw [View.contents, kind?_view, kind?_of_dead dead]

theorem contents_of_other {kind expected : RecordKind} (known : heap.kind? handle = some kind)
    (differ : kind ≠ expected) :
    heap.view.contents handle expected = .error (.refused (.kindMismatch expected kind)) := by
  rw [View.contents, kind?_view, known]
  exact if_neg differ

/-! ## 3. Where there is no record of the kind -/

section Absent

variable {error : HeapError}

theorem record_of_absent {kind : RecordKind}
    (none : heap.view.contents handle kind = .error (.refused error)) :
    (heap.record handle kind).answer = .error (.refused error) := by
  obtain ⟨_, events, same, run⟩ := record_eq_error none
  cases same
  rw [run]

section Fields

variable {layout : Layout} {scalar : Scalar}
  (none : heap.view.contents handle layout.kind = .error (.refused error))
  (field : Field layout scalar)

include none

theorem tryGet_of_absent : (heap.tryGet handle field).answer = .error (.refused error) :=
  Report.answer_bind_eq_error (record_of_absent none)

theorem get_of_absent : (heap.get handle field).answer = .ok scalar.sentinel :=
  Report.answer_withDefault_of_refused (tryGet_of_absent none field) _

theorem set_of_absent (value : scalar.Carrier Handle) :
    (set handle field value).Idles heap (.error (.refused error)) :=
  .bind_error (.look (record_of_absent none))

end Fields

section Slots

variable (none : heap.view.contents handle .propertyArray = .error (.refused error))
  (index : UInt32)

include none

theorem trySlot_of_absent : (heap.trySlot handle index).answer = .error (.refused error) :=
  Report.answer_bind_eq_error (record_of_absent none)

theorem slot_of_absent : (heap.slot handle index).answer = .ok .empty :=
  Report.answer_withDefault_of_refused (trySlot_of_absent none index) _

theorem slotCapacity_of_absent : (heap.slotCapacity handle).answer = .ok 0 :=
  Report.answer_withDefault_of_refused (Report.answer_bind_eq_error (record_of_absent none)) _

theorem setSlot_of_absent (content : Slot Handle) :
    (setSlot handle index content).Idles heap (.error (.refused error)) :=
  .bind_error (.look (record_of_absent none))

/-- The array is looked up once more, where it is long enough and where it is not. -/
theorem growProperties_of_absent (capacity : UInt32) :
    (growProperties handle capacity).Idles heap (.error (.refused error)) := by
  refine .bind_ok (.look (slotCapacity_of_absent none)) ?_
  split
  · obtain ⟨_, events, same, located⟩ := locate_eq_error none
    cases same
    exact .bind_error (.look (congrArg Report.answer located))
  · obtain ⟨events, refused⟩ := growRecord_of_missing none (capacity.toNat * Slot.size)
    exact .of_run refused

end Slots

section Elements

variable (none : heap.view.contents handle Layout.object.kind = .error (.refused error))
  (index : UInt32)

include none

theorem elementStorage_of_absent :
    (heap.elementStorage handle index).answer = .error (.refused error) :=
  Report.answer_bind_eq_error (tryGet_of_absent none ObjectField.arrayCount)

theorem tryElement_of_absent : (heap.tryElement handle index).answer = .error (.refused error) :=
  Report.answer_bind_eq_error (elementStorage_of_absent none index)

theorem element_of_absent : (heap.element handle index).answer = .ok .undefined :=
  Report.answer_withDefault_of_refused (tryElement_of_absent none index) _

theorem elementCapacity_of_absent : (heap.elementCapacity handle).answer = .ok 0 :=
  Report.answer_bind_of_ok (get_of_absent none ObjectField.arrayValues)

theorem prototype_of_absent : (heap.prototype handle).answer = .ok .null :=
  Report.answer_bind_of_ok (get_of_absent none ObjectField.shape)

theorem setElement_of_absent (value : Value Handle) :
    (setElement handle index value).Idles heap (.error (.refused error)) :=
  .bind_error (.look (elementStorage_of_absent none index))

theorem pushElement_of_absent (value : Value Handle) :
    (pushElement handle value).Idles heap (.error (.refused error)) :=
  .bind_error (.look (tryGet_of_absent none ObjectField.arrayCount))

end Elements

section Shapes

variable (none : heap.view.contents handle Layout.shape.kind = .error (.refused error))

include none

theorem hashShape_of_absent : (hashShape handle).Idles heap (.error (.refused error)) :=
  .bind_error (.look (tryGet_of_absent none ShapeField.isHashed))

theorem unhashShape_of_absent : (unhashShape handle).Idles heap (.error (.refused error)) :=
  .bind_error (.look (tryGet_of_absent none ShapeField.isHashed))

/-- The shape is looked up before anything is made. -/
theorem allocObject_of_absent (some : handle.isNull = false) (classId : UInt16) :
    (allocObject handle classId).Idles heap (.error (.refused error)) := by
  unfold allocObject
  simp only [some]
  exact .bind_error (.look (tryGet_of_absent none ShapeField.propSize))

end Shapes

end Absent

end Heap

namespace Operation

open Heap

variable {heap : Heap} {operation : Operation Handle} {target : Handle}

/-! ## 4. Operations -/

theorem looking_idles {α : Type} {report : Heap → Report Stop α} {answer : α → Answer Handle}
    {a : α} (h : (report heap).answer = .ok a) :
    (looking report answer).Idles heap (.ok (answer a)) :=
  .bind_ok (.look h) (.pure _)

/-- An operation that needs a record of a kind does nothing where there is none. -/
theorem perform_of_absent {kind : RecordKind} {error : HeapError} :
    (operation : Operation Handle) → operation.subject? = some target →
      operation.needs? = some kind →
      heap.view.contents target kind = .error (.refused error) →
      operation.perform.Idles heap (operation.absent error)
  | .allocObject shape classId, about, rfl, missing => by
    cases null : shape.isNull with
    | true => rw [subject?, null] at about; cases about
    | false =>
      rw [subject?, null] at about
      cases about
      exact .bind_error (allocObject_of_absent missing null classId)
  | .get _ field, rfl, rfl, missing => looking_idles (get_of_absent missing field)
  | .tryGet _ field, rfl, rfl, missing => .bind_error (.look (tryGet_of_absent missing field))
  | .set _ field value, rfl, rfl, missing => .bind_error (set_of_absent missing field value)
  | .prototype _, rfl, rfl, missing => looking_idles (prototype_of_absent missing)
  | .slotCapacity _, rfl, rfl, missing =>
    .bind_ok (.look (slotCapacity_of_absent missing)) (.pure _)
  | .slot _ index, rfl, rfl, missing => looking_idles (slot_of_absent missing index)
  | .trySlot _ index, rfl, rfl, missing => .bind_error (.look (trySlot_of_absent missing index))
  | .setSlot _ index content, rfl, rfl, missing =>
    .bind_error (setSlot_of_absent missing index content)
  | .slotValue _ index, rfl, rfl, missing =>
    looking_idles (Report.answer_bind_of_ok (slot_of_absent missing index))
  | .setSlotValue _ index value, rfl, rfl, missing =>
    .bind_error (setSlot_of_absent missing index (.value value))
  | .slotGetter _ index, rfl, rfl, missing =>
    looking_idles (Report.answer_bind_of_ok (slot_of_absent missing index))
  | .slotSetter _ index, rfl, rfl, missing =>
    looking_idles (Report.answer_bind_of_ok (slot_of_absent missing index))
  | .slotVarRef _ index, rfl, rfl, missing =>
    looking_idles (Report.answer_bind_of_ok (slot_of_absent missing index))
  | .setSlotGetter _ index _, rfl, rfl, missing =>
    .bind_error (.bind_error (.look (trySlot_of_absent missing index)))
  | .setSlotSetter _ index _, rfl, rfl, missing =>
    .bind_error (.bind_error (.look (trySlot_of_absent missing index)))
  | .setSlotVarRef _ index other, rfl, rfl, missing =>
    .bind_error (setSlot_of_absent missing index (.varRef other))
  | .growProperties _ capacity, rfl, rfl, missing =>
    .bind_error (growProperties_of_absent missing capacity)
  | .elementCapacity _, rfl, rfl, missing =>
    .bind_ok (.look (elementCapacity_of_absent missing)) (.pure _)
  | .element _ index, rfl, rfl, missing => looking_idles (element_of_absent missing index)
  | .tryElement _ index, rfl, rfl, missing =>
    .bind_error (.look (tryElement_of_absent missing index))
  | .setElement _ index value, rfl, rfl, missing =>
    .bind_error (setElement_of_absent missing index value)
  | .pushElement _ value, rfl, rfl, missing => .bind_error (pushElement_of_absent missing value)
  | .hashShape _, rfl, rfl, missing => .bind_error (hashShape_of_absent missing)
  | .unhashShape _, rfl, rfl, missing => .bind_error (unhashShape_of_absent missing)

/-- An operation that takes a record of every kind does nothing where the handle is not live. -/
theorem perform_of_dead_any : (operation : Operation Handle) → operation.subject? = some target →
    operation.needs? = none → heap.Dead target →
      operation.perform.Idles heap (operation.absent .invalidHandle)
  | .kind _, rfl, _, dead => looking_idles (congrArg (Except.ok ∘ Answer.kind) (kind?_of_dead dead))
  | .isLive _, rfl, _, dead => looking_idles (congrArg (Except.ok ∘ Answer.flag) dead)
  | .isPinned target, rfl, _, dead => by
    have unpinned : heap.isPinned target = false := by
      rw [Heap.isPinned, dead_iff.mp dead]
      rfl
    exact looking_idles (congrArg (Except.ok ∘ Answer.flag) unpinned)
  | .bytes target, rfl, _, dead => by
    have none : heap.bytes? target = none := by
      rw [Heap.bytes?, dead_iff.mp dead]
      rfl
    exact looking_idles (congrArg (Except.ok ∘ Answer.bytes) none)
  | .overwrite _ start source, rfl, _, dead =>
    .bind_ok (.of_run (overwrite_of_dead dead start source)) (.pure _)
  | .invalidate _, rfl, _, dead => .bind_ok (.of_run (invalidate_of_dead dead)) (.pure _)
  | .relocate _, rfl, _, dead =>
    .bind_error (.bind_error (.look (congrArg Report.answer (placement_of_dead dead))))
  | .pin _, rfl, _, dead => .bind_error (.of_run (setPinned_of_dead dead true))
  | .unpin _, rfl, _, dead => .bind_error (.of_run (setPinned_of_dead dead false))
  | .addRoot _, rfl, _, dead => .bind_error (.of_run (addRoot_of_dead dead))
  | .setRoot id _, rfl, _, dead => .bind_error (.of_run (setRoot_of_dead dead id))

/-- An operation on a handle that is not live does nothing. -/
theorem perform_of_dead (about : operation.subject? = some target) (dead : heap.Dead target) :
    operation.perform.Idles heap (operation.absent .invalidHandle) := by
  cases needed : operation.needs? with
  | none => exact perform_of_dead_any operation about needed dead
  | some kind => exact perform_of_absent operation about needed (contents_of_dead dead kind)

end Operation

/-! ## 5. Result -/

namespace Heap

/-- An operation that is about a handle leaves the whole heap as it is if the handle is not live, or
if it names a record of another kind than the operation needs. It is refused with the error that
tells so, or answers the value that stands for nothing. -/
theorem inert_of_absent (heap : Heap) {operation : Operation Handle} {target : Handle}
    (about : operation.subject? = some target) :
    (heap.isLive target = false →
      (operation.perform heap).answer = operation.absent .invalidHandle ∧
        (operation.perform heap).state = heap) ∧
      ∀ needed found, operation.needs? = some needed → heap.kind? target = some found →
        found ≠ needed →
          (operation.perform heap).answer = operation.absent (.kindMismatch needed found) ∧
            (operation.perform heap).state = heap := by
  refine ⟨fun dead => ?_, fun needed found needs known differ => ?_⟩
  · have idles := Operation.perform_of_dead about dead
    exact ⟨idles.answer, idles.state⟩
  · have idles := Operation.perform_of_absent operation about needs (contents_of_other known differ)
    exact ⟨idles.answer, idles.state⟩

/-- A value is pushed to a handle that was never issued, and to a shape. -/
theorem inert_small :
    let heap := newSmall.run smallSession
    let push (object : Handle) := (Operation.pushElement object .null).perform heap
    (heap.isLive ⟨9, 0⟩ = false ∧
        (push ⟨9, 0⟩).answer = .error (.refused .invalidHandle) ∧ (push ⟨9, 0⟩).state = heap) ∧
      heap.kind? ⟨1, 0⟩ = some .shape ∧
        (push ⟨1, 0⟩).answer = .error (.refused (.kindMismatch .object .shape)) ∧
          (push ⟨1, 0⟩).state = heap := by
  have known : (newSmall.run smallSession).isLive ⟨9, 0⟩ = false ∧
      (newSmall.run smallSession).kind? ⟨1, 0⟩ = some .shape := by decide +kernel
  have unknown := inert_of_absent (newSmall.run smallSession)
    (show (Operation.pushElement ⟨9, 0⟩ .null).subject? = some ⟨9, 0⟩ from rfl)
  have other := inert_of_absent (newSmall.run smallSession)
    (show (Operation.pushElement ⟨1, 0⟩ .null).subject? = some ⟨1, 0⟩ from rfl)
  exact ⟨⟨known.1, unknown.1 known.1⟩, known.2, other.2 .object .shape rfl known.2 nofun⟩

end Heap

end HandleHeap
