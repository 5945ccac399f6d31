import HandleHeap.Proofs.Heap.Refusal
import HandleHeap.Proofs.Heap.Resting
import HandleHeap.Proofs.Slot.Arrays

/-!
# The property slots of a session

Along with a session go the lists of its property arrays. An array that is made, by itself or with
an object, gets a list of empty slots; from then on `Operation.slotsEdited` says what writing its
slots and growing it make of the list, without a word of bytes. An array is given up
(`Operation.forfeits`) when its handle is ended, or its bytes are changed in another way.

* `slots_perform`: an operation that does not give an array up leaves it with the edited list.
* `slotted_of_run`: hence every array of a session that was not given up answers as its list does.
-/

namespace HandleHeap

open HandleHeap.Action Heap

/-! ## 1. The lists of a session -/

namespace Operation

/-- How many slots the property array has that an operation makes under a handle, if it makes one.
An object comes with as many as its shape asks for. -/
def slotsMade (heap : Heap) (storage : Handle) : Operation Handle → Option Nat
  | allocProperties capacity =>
    match (Heap.allocProperties capacity heap).answer with
    | .ok made => if made = storage then some capacity.toNat else none
    | .error _ => none
  | allocObject shape classId =>
    let out := Heap.allocObject shape classId heap
    match out.answer with
    | .ok object =>
      if !storage.isNull && out.state.view.field object ObjectField.props = storage then
        some (heap.view.field shape ShapeField.propSize).toNat
      else none
    | .error _ => none
  | _ => none

/-- Whether an operation ends a property array, or changes its bytes other than as slots. -/
def forfeits (heap : Heap) (storage : Handle) (operation : Operation Handle) : Bool :=
  match operation with
  | overwrite target .. =>
    target = storage &&
      (operation.perform heap).state.view.bytes storage ≠ heap.view.bytes storage
  | invalidate target => target = storage
  | reset | teardown => true
  | _ => false

/-- The slots of a property array after an operation on a list: one of them is written, or empty
ones are appended as far as the capacity that was asked for. -/
def slotsEdited (heap : Heap) (storage : Handle) (slots : List (Slot Handle))
    (operation : Operation Handle) : List (Slot Handle) :=
  match operation.slotWrite with
  | some (target, index, content) =>
    if target = storage then slots.modify index.toNat content else slots
  | none =>
    match operation with
    | growProperties target capacity =>
      match (Heap.growProperties target capacity heap).answer with
      | .ok _ =>
        if target = storage then
          slots ++ List.replicate (capacity.toNat - slots.length) .empty
        else slots
      | .error _ => slots
    | _ => slots

/-- The lists after one more operation. -/
def reslot (heap : Heap) (known : Handle → Option (List (Slot Handle)))
    (operation : Operation Handle) (storage : Handle) : Option (List (Slot Handle)) :=
  match operation.slotsMade heap storage with
  | some n => some (List.replicate n .empty)
  | none =>
    if operation.forfeits heap storage then none
    else (known storage).map fun slots => operation.slotsEdited heap storage slots

end Operation

/-- The lists of the property arrays that a run makes and does not give up. -/
def Heap.slotLists (heap : Heap) (operations : List (Operation Handle)) :
    Handle → Option (List (Slot Handle)) :=
  heap.follow Operation.reslot (fun _ => none) operations

/-! ## 2. One operation -/

namespace Operation

variable {heap : Heap} {storage : Handle} {slots : List (Slot Handle)}
  {operation : Operation Handle}

/-- A new property array holds empty slots, whatever its block held before. -/
theorem slots_of_made (sound : heap.Sound) {n : Nat}
    (made : operation.slotsMade heap storage = some n) :
    (operation.perform heap).state.view.Slots storage (List.replicate n .empty) := by
  cases operation with
  | allocProperties capacity =>
    have state : ((allocProperties capacity).perform heap).state =
        (Heap.allocProperties capacity heap).state := state_bind_pure ..
    simp only [slotsMade] at made
    split at made
    · next handle answer =>
      split at made <;> cases made
      next own =>
      subst own
      have allowed : 0 < capacity.toNat * Slot.size →
          RecordKind.propertyArray.Allows (capacity.toNat * Slot.size) := allows_slots
      have record := sound.allocRecord allowed
      rw [show (Heap.allocRecord .propertyArray (capacity.toNat * Slot.size) heap).answer = _ from
        answer] at record
      rw [state]
      exact ⟨_, record.contents, .zeros capacity.toNat⟩
    · cases made
  | allocObject shape classId =>
    have state : ((allocObject shape classId).perform heap).state =
        (Heap.allocObject shape classId heap).state := state_bind_pure ..
    simp only [slotsMade] at made
    split at made
    · next object answer =>
      split at made <;> cases made
      next own =>
      obtain ⟨attached, points⟩ := (Bool.and_eq_true ..).mp own
      obtain ⟨-, props, known, array⟩ := sound.allocObject_ok answer
      have same : props = storage := by
        rw [← of_decide_eq_true points, field_of_contents known, props_newObject]
      subst same
      rw [state]
      split at array
      · exact ⟨_, array.2, .zeros _⟩
      · rw [array] at attached
        cases attached
    · cases made
  | _ => cases made

theorem disturbs_of_slotWrite {target : Handle} {index : UInt32}
    {content : Slot Handle → Slot Handle}
    (writes : operation.slotWrite = some (target, index, content)) {handle : Handle}
    (disturbs : operation.Disturbs heap handle) : handle = target := by
  cases operation with
  | setSlot | setSlotValue | setSlotGetter | setSlotSetter | setSlotVarRef =>
    cases writes
    exact disturbs.1
  | _ => cases writes

section Holding

variable (sound : heap.Sound) (holds : heap.view.Slots storage slots)
include sound holds

/-- An array that an operation does not disturb holds the list that it held. -/
theorem slots_rest {operation : Operation Handle} (onward : operation.rewinds = false)
    (undisturbed : ¬ operation.Disturbs heap storage) :
    (operation.perform heap).state.view.Slots storage slots :=
  holds.of_rests
    (rests_perform sound operation onward (kind?_of_slots holds) (by decide) undisturbed)

theorem slots_written {operation : Operation Handle} {target : Handle} {index : UInt32}
    {content : Slot Handle → Slot Handle} (onward : operation.rewinds = false)
    (writes : operation.slotWrite = some (target, index, content)) :
    (operation.perform heap).state.view.Slots storage
      (operation.slotsEdited heap storage slots) := by
  simp only [slotsEdited, writes]
  split
  · next own =>
    subst own
    rcases sound.perform_slotWrite holds writes with ⟨-, after, run, holds'⟩ | ⟨beyond, run⟩
    · rw [run]
      exact holds'
    · rw [run, List.modify_eq_self beyond]
      exact holds
  · next other =>
    exact slots_rest sound holds onward fun disturbs =>
      other (disturbs_of_slotWrite writes disturbs).symm

theorem slots_growProperties (target : Handle) (capacity : UInt32) :
    ((growProperties target capacity).perform heap).state.view.Slots storage
      ((growProperties target capacity).slotsEdited heap storage slots) := by
  have state : ((growProperties target capacity).perform heap).state =
      (Heap.growProperties target capacity heap).state := state_bind_pure ..
  simp only [slotsEdited, slotWrite]
  by_cases own : target = storage
  · subst own
    have cases := sound.growProperties_cases holds capacity
    rw [state]
    generalize (Heap.growProperties target capacity heap).answer = answer,
      (Heap.growProperties target capacity heap).state = after at cases ⊢
    cases cases with
    | kept enough same =>
      rw [if_pos rfl, Nat.sub_eq_zero_of_le enough, same]
      simpa using holds
    | grown longer holds' =>
      rw [if_pos rfl]
      exact holds'
    | refused longer holds' => exact holds'
  · rw [if_neg own]
    have kept : ((growProperties target capacity).perform heap).state.view.Slots storage slots :=
      slots_rest sound holds rfl fun disturbs => own disturbs.1.symm
    split <;> exact kept

/-- Bytes are overwritten elsewhere, or by themselves. -/
theorem slots_overwrite {target : Handle} {start : Nat} {source : List UInt8}
    (spared : (overwrite target start source).forfeits heap storage = false) :
    ((overwrite target start source).perform heap).state.view.Slots storage slots := by
  have only : OnlyArena heap ((overwrite target start source).perform heap).state :=
    (keeps_bind (onlyArena_overwrite target start source) fun _ => keeps_pure _).step heap
  by_cases own : target = storage
  · simp only [forfeits, own, decide_true, Bool.true_and, decide_eq_false_iff_not, not_not]
      at spared
    subst own
    exact holds.of_rests ⟨only.kind?_view _, spared⟩
  · exact slots_rest sound holds rfl fun disturbs => own disturbs.symm

/-- A property array that is not given up holds the edited list. -/
theorem slots_perform (operation : Operation Handle)
    (spared : operation.forfeits heap storage = false) :
    (operation.perform heap).state.view.Slots storage
      (operation.slotsEdited heap storage slots) := by
  have onward : operation.rewinds = false := by cases operation <;> first | rfl | cases spared
  cases writes : operation.slotWrite with
  | some write => exact slots_written sound holds onward writes
  | none =>
    have rests (undisturbed : ¬ operation.Disturbs heap storage) :=
      slots_rest sound holds onward undisturbed
    -- What asks for a record of another kind does not reach the array.
    have other_kind {kind : RecordKind} (differ : kind ≠ .propertyArray) :
        heap.kind? storage ≠ some kind := by
      rw [kind?_of_slots holds]
      exact fun same => differ (Option.some.inj same).symm
    cases operation with
    | setSlot | setSlotValue | setSlotGetter | setSlotSetter | setSlotVarRef => cases writes
    | growProperties target capacity => exact slots_growProperties sound holds target capacity
    | overwrite target start source => exact slots_overwrite sound holds spared
    | invalidate target => exact rests fun own => of_decide_eq_false spared own.symm
    | @set layout scalar target field value =>
      exact rests fun disturbs => other_kind (by cases layout <;> decide) disturbs.2
    | setElement object index value => exact rests fun disturbs => other_kind (by decide) disturbs.2
    | pushElement object value =>
      exact rests fun disturbs => disturbs.elim (fun own => other_kind (by decide) own.2)
        fun has => other_kind (by decide) has.2
    | reset | teardown => cases onward
    | _ => exact rests id

end Holding

end Operation

/-! ## 3. A run -/

namespace Heap

variable {heap : Heap} {known : Handle → Option (List (Slot Handle))} {storage : Handle}
  {slots : List (Slot Handle)}

/-- The known lists are those of their arrays. -/
def Held (heap : Heap) (known : Handle → Option (List (Slot Handle))) : Prop :=
  ∀ storage slots, known storage = some slots → heap.view.Slots storage slots

theorem held_rewind {operation : Operation Handle} (rewinds : operation.rewinds = true) :
    (operation.perform heap).state.Held (operation.reslot heap known) := by
  intro storage slots listed
  have none : operation.reslot heap known storage = none := by
    cases operation with
    | reset | teardown => rfl
    | _ => cases rewinds
  cases none.symm.trans listed

theorem Held.perform (held : heap.Held known) (sound : heap.Sound)
    (operation : Operation Handle) :
    (operation.perform heap).state.Held (operation.reslot heap known) := by
  intro storage slots listed
  unfold Operation.reslot at listed
  split at listed
  · next n made =>
    cases listed
    exact Operation.slots_of_made sound made
  · split at listed
    · cases listed
    · next spared =>
      obtain ⟨before, known, rfl⟩ := Option.map_eq_some_iff.mp listed
      exact Operation.slots_perform sound (held _ _ known) operation (Bool.eq_false_iff.mpr spared)

/-- A property array answers as the list of its slots does. -/
structure Slotted (heap : Heap) (storage : Handle) (slots : List (Slot Handle)) : Prop where
  few : slots.length < 2 ^ 32
  capacity : (heap.slotCapacity storage).answer = .ok (UInt32.ofNat slots.length)
  /-- Beyond its end the array reads as empty slots. -/
  slot : ∀ index, (heap.slot storage index).answer = .ok (slots[index.toNat]?.getD .empty)
  trySlot : ∀ index, (heap.trySlot storage index).answer =
    if inside : index.toNat < slots.length then .ok slots[index.toNat]
    else .error (.refused (.indexOutOfBounds index (UInt32.ofNat slots.length)))
  /-- A slot that is there can be written. -/
  writes : ∀ {operation : Operation Handle} {index : UInt32} {content},
    operation.slotWrite = some (storage, index, content) → index.toNat < slots.length →
      (operation.perform heap).answer = .ok .done
  /-- Writing beyond the end is refused and changes nothing. -/
  refuses : ∀ {operation : Operation Handle} {index : UInt32} {content},
    operation.slotWrite = some (storage, index, content) → slots.length ≤ index.toNat →
      operation.perform heap = ⟨.error (.refused
        (.indexOutOfBounds index (UInt32.ofNat slots.length))), heap, []⟩
  /-- An array that is long enough stays as it is. -/
  keeps : ∀ {capacity : UInt32}, capacity.toNat ≤ slots.length →
    (growProperties storage capacity heap).answer = .ok () ∧
      (growProperties storage capacity heap).state = heap
  /-- Another one grows, or is refused for lack of space and changes nothing but the offset of the
  arena. -/
  grows : ∀ {capacity : UInt32}, slots.length < capacity.toNat →
    (growProperties storage capacity heap).answer = .ok () ∨
      ∃ cause, (growProperties storage capacity heap).answer =
          .error (.refused (.outOfMemory cause)) ∧
        Spared heap (growProperties storage capacity heap).state

theorem Sound.slotted (sound : heap.Sound) (holds : heap.view.Slots storage slots) :
    heap.Slotted storage slots where
  few := sound.length_slots holds
  capacity := congrArg Report.answer (sound.slotCapacity_eq holds)
  slot := sound.answer_slot holds
  trySlot index := by
    rw [sound.trySlot_eq holds]
    split
    · next slot known =>
      obtain ⟨inside, rfl⟩ := List.getElem?_eq_some_iff.mp known
      rw [dif_pos inside]
      rfl
    · next none =>
      rw [dif_neg (Nat.not_lt.mpr (List.getElem?_eq_none_iff.mp none))]
      rfl
  writes writes inside := by
    rcases sound.perform_slotWrite holds writes with ⟨-, after, run, -⟩ | ⟨beyond, -⟩
    · rw [run]
    · exact absurd inside (Nat.not_lt.mpr beyond)
  refuses writes beyond := by
    rcases sound.perform_slotWrite holds writes with ⟨inside, -⟩ | ⟨-, run⟩
    · exact absurd inside (Nat.not_lt.mpr beyond)
    · exact run
  keeps {capacity} enough := by
    have cases := sound.growProperties_cases holds capacity
    generalize (growProperties storage capacity heap).answer = answer,
      (growProperties storage capacity heap).state = after at cases ⊢
    cases cases with
    | kept _ same => exact ⟨rfl, same⟩
    | grown longer _ | refused longer _ => exact absurd longer (Nat.not_lt.mpr enough)
  grows {capacity} longer := by
    have cases := sound.growProperties_cases holds capacity
    have reverts := sound.reverts_growProperties storage capacity
    unfold Reverts at reverts
    generalize (growProperties storage capacity heap).answer = answer,
      (growProperties storage capacity heap).state = after at cases reverts ⊢
    cases cases with
    | kept enough _ => exact absurd longer (Nat.not_lt.mpr enough)
    | grown _ _ => exact .inl rfl
    | refused _ _ => exact .inr ⟨_, rfl, (reverts _ rfl).2 trivial⟩

/-- After any run, a property array that the run made and did not give up answers as its list does.
That starts as empty slots, and is edited slot by slot and by appending empty slots, whatever else
is done in between. -/
theorem slotted_of_run {grants : Nat → Bool} {config : Config} {start : Heap}
    (made : (Heap.new grants config).answer = .ok start) (operations : List (Operation Handle))
    (few : (runCounting 0 start operations).1 < sizeLimit)
    (listed : start.slotLists operations storage = some slots) :
    (start.run operations).Slotted storage slots := by
  have reached : Reached config _ (start.run operations) := reached_run (.new made) operations
  obtain ⟨sound, -⟩ := (tracked_of_reached reached).sound few
  have held : (start.run operations).Held (start.slotLists operations) := by
    refine holds_of_run Held (fun _ _ _ rewinds => held_rewind rewinds)
      (fun operation sound _ _ held => held.perform sound operation) (tracked_new made)
      (accounted_of_reached (.new made)) (fun _ storage slots none => ?_) operations few
    cases none
  exact sound.slotted (held _ _ listed)

/-- A session with an object whose property array is written, moved, and grown. -/
def slottingSession : List (Operation Handle) :=
  [.allocShape .null 2, .allocObject ⟨1, 0⟩ 7, .setSlotValue ⟨3, 0⟩ 0 (.int 5),
    .setSlotSetter ⟨3, 0⟩ 0 ⟨2, 0⟩, .relocate ⟨3, 0⟩, .setSlotGetter ⟨3, 0⟩ 0 ⟨1, 0⟩,
    .setSlotVarRef ⟨3, 0⟩ 1 ⟨2, 0⟩, .growProperties ⟨3, 0⟩ 3, .setSlot ⟨3, 0⟩ 3 .empty,
    .growProperties ⟨3, 0⟩ 40, .allocProperties 1]

/-- The slots of the object in that session. -/
theorem slotted_small :
    (runCounting 0 newSmall slottingSession).1 < sizeLimit ∧
      newSmall.slotLists slottingSession ⟨3, 0⟩ =
        some [.accessor ⟨1, 0⟩ ⟨2, 0⟩, .varRef ⟨2, 0⟩, .empty] ∧
      ((newSmall.run slottingSession).slot ⟨3, 0⟩ 0).answer = .ok (.accessor ⟨1, 0⟩ ⟨2, 0⟩) ∧
      ((Operation.setSlot ⟨3, 0⟩ 3 .empty).perform (newSmall.run slottingSession)).answer =
        .error (.refused (.indexOutOfBounds 3 3)) := by
  have few : (runCounting 0 newSmall slottingSession).1 < sizeLimit := by decide +kernel
  have listed : newSmall.slotLists slottingSession ⟨3, 0⟩ =
      some [.accessor ⟨1, 0⟩ ⟨2, 0⟩, .varRef ⟨2, 0⟩, .empty] := by
    decide +kernel
  have slotted := slotted_of_run new_small slottingSession few listed
  have writes : (Operation.setSlot ⟨3, 0⟩ 3 .empty).slotWrite =
      some (⟨3, 0⟩, 3, fun _ => .empty) := rfl
  exact ⟨few, listed, slotted.slot 0, congrArg Outcome.answer (slotted.refuses writes (by decide))⟩

end Heap

end HandleHeap
