import HandleHeap.Proofs.Handle.Renaming
import HandleHeap.Proofs.Heap.Reachable

/-!
# What holds of every heap that is reached

Facts that each change to a part of a heap keeps, so that they hold of every heap that a session
reaches, however its offset moved.

* `accounted_of_reached`: the accounts of the handle table agree.
* `set_up_of_reached`: the heap is set up as its configuration says.
* `holds_of_run`: what is told along a run holds at its end, if each operation keeps it.
-/

namespace HandleHeap

open HandleHeap.Action

/-! ## 1. Accounts -/

instance : KeptByParts fun before after : Heap =>
    before.handles.Accounted → after.handles.Accounted where
  refl _ := id
  trans first second := second ∘ first
  request _ _ := id
  content _ _ _ _ := id
  handles _ operation accounted := accounted.perform operation
  sideTables _ _ _ _ := id

namespace Heap

theorem accounted_rewind {heap : Heap} {operation : Operation Handle}
    (rewinds : operation.rewinds = true) (accounted : heap.handles.Accounted) :
    (operation.perform heap).state.handles.Accounted := by
  cases operation with
  | reset => exact accounted.invalidateAll
  | teardown =>
    rw [state_teardown]
    exact accounted.invalidateAll
  | _ => cases rewinds

theorem Accounted.perform {heap : Heap} (accounted : heap.handles.Accounted)
    (operation : Operation Handle) : (operation.perform heap).state.handles.Accounted := by
  cases rewinds : operation.rewinds with
  | true => exact accounted_rewind rewinds accounted
  | false =>
    have keeps : operation.perform.Keeps fun before after : Heap =>
        before.handles.Accounted → after.handles.Accounted :=
      Operation.keeps_perform operation rewinds
    exact keeps.step heap accounted

theorem accounted_of_reached {config : Config} {requested : Nat} {heap : Heap}
    (reached : Reached config requested heap) : heap.handles.Accounted := by
  induction reached with
  | new made => exact HandleTable.accounted_withCapacity (new_eq_ok made).2.1
  | perform _ operation accounted => exact Accounted.perform accounted operation

/-- Ending a handle answers, since the accounts agree. -/
theorem exists_answer_end {heap : Heap} (accounted : heap.handles.Accounted) (handle : Handle) :
    ∃ live, (onTable (HandleTable.invalidate handle) heap).answer = .ok live := by
  cases live : heap.handles.isLive handle with
  | true => exact ⟨true, congrArg Outcome.answer (HandleTable.invalidate_of_live accounted live)⟩
  | false => exact ⟨false, congrArg Outcome.answer (HandleTable.invalidate_of_dead live)⟩

/-! ## 2. The configuration -/

end Heap

theorem HandleTable.limit_perform {α : Type} (table : HandleTable α)
    (operation : TableOperation α) : (table.perform operation).limit = table.limit := by
  have occupied (index : UInt32) (address : α) (table : HandleTable α) :
      (occupy index address table).state.limit = table.limit := by
    unfold occupy
    split <;> rfl
  cases operation with
  | register address =>
    show (register address table).state.limit = table.limit
    unfold register
    split
    · exact occupied ..
    · simp only
      split
      · rfl
      · exact occupied ..
  | relocate handle address =>
    show (relocate handle address table).state.limit = table.limit
    unfold relocate
    split <;> rfl
  | invalidate handle =>
    show (invalidate handle table).state.limit = table.limit
    unfold invalidate
    split
    · simp only
      split <;> rfl
    · rfl
  | invalidateAll => rfl

theorem HandleTable.limit_run {α : Type} (table : HandleTable α)
    (operations : List (TableOperation α)) : (table.run operations).limit = table.limit := by
  induction operations generalizing table with
  | nil => rfl
  | cons operation rest ih => exact (ih _).trans (table.limit_perform operation)

namespace Heap

/-- The heap is set up as a configuration says, as long as it was not torn down. -/
structure SetUp (config : Config) (heap : Heap) : Prop where
  configured : heap.config = config
  bits : heap.buckets.bits = (ShapeBuckets.new config.shapeHashBits).bits
  limit : heap.handles.limit = (HandleTable.empty (α := Placement) config.maxHandles).limit
  capacity : heap.arena.initialized = true → heap.arena.capacity = config.arenaCapacity

end Heap

instance (config : Config) : KeptByParts fun before after : Heap =>
    before.SetUp config → after.SetUp config where
  refl _ := id
  trans first second := second ∘ first
  request heap size setUp := by
    refine ⟨setUp.configured, setUp.bits, setUp.limit, fun ready => ?_⟩
    obtain ⟨used, moved⟩ := Arena.exists_state_allocate heap.arena size
    rw [moved] at ready ⊢
    exact setUp.capacity ready
  content _ _ _ changed setUp :=
    ⟨setUp.configured, setUp.bits, setUp.limit, fun ready =>
      changed.capacity.trans (setUp.capacity (changed.initialized.symm.trans ready))⟩
  handles heap operation setUp :=
    ⟨setUp.configured, setUp.bits, (heap.handles.limit_perform operation).trans setUp.limit,
      setUp.capacity⟩
  sideTables _ _ _ bits setUp :=
    ⟨setUp.configured, bits.trans setUp.bits, setUp.limit, setUp.capacity⟩

namespace Heap

theorem SetUp.perform {config : Config} {heap : Heap} (setUp : heap.SetUp config)
    (operation : Operation Handle) : (operation.perform heap).state.SetUp config := by
  cases rewinds : operation.rewinds with
  | true =>
    cases operation with
    | reset => exact ⟨setUp.configured, setUp.bits, setUp.limit, setUp.capacity⟩
    | teardown =>
      rw [state_teardown]
      refine ⟨setUp.configured, setUp.bits, setUp.limit, fun ready => ?_⟩
      -- An arena is never ready after it was torn down.
      have torn : (Arena.teardown (ε := AllocError) heap.arena).state.initialized = false := by
        unfold Arena.teardown
        split
        · rfl
        · next idle => exact Bool.eq_false_iff.mpr idle
      exact absurd (torn.symm.trans ready) Bool.false_ne_true
    | _ => cases rewinds
  | false =>
    have keeps : operation.perform.Keeps fun before after : Heap =>
        before.SetUp config → after.SetUp config :=
      Operation.keeps_perform operation rewinds
    exact keeps.step heap setUp

theorem set_up_of_reached {config : Config} {requested : Nat} {heap : Heap}
    (reached : Reached config requested heap) : heap.SetUp config := by
  induction reached with
  | new made =>
    obtain ⟨arena, table, configured, buckets, -⟩ := new_eq_ok made
    exact ⟨configured, congrArg ShapeBuckets.bits buckets,
      congrArg HandleTable.limit (HandleTable.eq_of_withCapacity table),
      fun _ => congrArg Arena.capacity (Arena.eq_of_new arena)⟩
  | perform _ operation setUp => exact setUp.perform operation

/-! ## 3. What is told of a run -/

section Follow

variable {Told : Type} {step : Heap → Told → Operation Handle → Told}

/-- What is told of a run, where each operation adds to what was told before it. -/
def follow (step : Heap → Told → Operation Handle → Told) :
    Heap → Told → List (Operation Handle) → Told
  | _, told, [] => told
  | heap, told, operation :: rest =>
    follow step (operation.perform heap).state (step heap told operation) rest

/-- What is told holds after a run, if each operation keeps it. An operation that rewinds the arena
starts anew, as the offset may have wrapped before it. -/
theorem holds_of_run (holds : Heap → Told → Prop)
    (rewound : ∀ heap told (operation : Operation Handle), operation.rewinds = true →
      holds (operation.perform heap).state (step heap told operation))
    (performed : ∀ {heap : Heap} {told} (operation : Operation Handle), heap.Sound →
      heap.handles.Accounted → operation.rewinds = false → holds heap told →
        holds (operation.perform heap).state (step heap told operation))
    {heap : Heap} {requested : Nat} {told : Told} (tracked : heap.Tracked requested)
    (accounted : heap.handles.Accounted) (first : requested < sizeLimit → holds heap told)
    (operations : List (Operation Handle))
    (few : (runCounting requested heap operations).1 < sizeLimit) :
    holds (heap.run operations) (follow step heap told operations) := by
  induction operations generalizing requested heap told with
  | nil => exact first few
  | cons operation rest ih =>
    refine ih (tracked.perform operation) (Accounted.perform accounted operation)
      (fun few' => ?_) few
    cases rewinds : operation.rewinds with
    | true => exact rewound heap told operation rewinds
    | false =>
      have before : requested < sizeLimit := by
        simp only [Operation.requested, rewinds] at few'
        exact Nat.lt_of_le_of_lt (Nat.le_add_right ..) few'
      exact performed operation (tracked.sound before).1 accounted rewinds (first before)

end Follow

end Heap

end HandleHeap
