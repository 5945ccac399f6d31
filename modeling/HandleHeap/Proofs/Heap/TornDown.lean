import HandleHeap.Proofs.Heap.Absent
import HandleHeap.Proofs.Heap.Refusal
import HandleHeap.Proofs.Root.Accounting
import HandleHeap.Proofs.Session.Script

/-!
# Heaps that were torn down

Nothing lives after `teardown`, and nothing can be made, since the arena hands out no block. So an
operation that does not rewind the arena leaves the whole heap as it is, and one that does leaves it
torn down again. No run and no script leads out of it.

* `TornDown`: what is left of a heap.
* `state_of_torn_down`: an operation leaves a heap that was torn down as it is.
* `barren_of_teardown`: what is seen of the heap after any further run.
-/

namespace HandleHeap

open HandleHeap.Action

namespace Heap

/-! ## 1. What is left -/

/-- Nothing lives in the heap, and its arena hands out nothing. -/
structure TornDown (heap : Heap) : Prop where
  initialized : heap.arena.initialized = false
  used : heap.arena.used = 0
  capacity : heap.arena.capacity = 0
  dead : ∀ handle, heap.Dead handle
  live : heap.handles.live = 0
  roots : heap.roots = .empty
  heads : heap.buckets.heads = []
  hashed : heap.buckets.hashed = 0

/-- An arena that is not initialized has no bytes. -/
def Emptied (heap : Heap) : Prop :=
  heap.arena.initialized = false → heap.arena.used = 0 ∧ heap.arena.capacity = 0

variable {heap : Heap}

/-- Ending all records leaves a heap torn down whose arena is. -/
theorem torn_down_endAll {arena : Arena} (initialized : arena.initialized = false)
    (used : arena.used = 0) (capacity : arena.capacity = 0) :
    TornDown { heap.endAll with arena } where
  initialized := initialized
  used := used
  capacity := capacity
  dead handle := dead_iff.mpr (HandleTable.resolve_invalidateAll heap.handles handle)
  live := rfl
  roots := rfl
  heads := rfl
  hashed := rfl

theorem Emptied.teardown (emptied : heap.Emptied) :
    TornDown (Operation.teardown.perform heap).state := by
  rw [state_teardown]
  unfold Arena.teardown
  split
  · exact torn_down_endAll rfl rfl rfl
  · next torn =>
    have torn : heap.arena.initialized = false := Bool.eq_false_iff.mpr torn
    exact torn_down_endAll torn (emptied torn).1 (emptied torn).2

theorem emptied_perform (regular : heap.arena.Regular) (emptied : heap.Emptied)
    (operation : Operation Handle) : Emptied (operation.perform heap).state := by
  cases rewinds : operation.rewinds with
  | false =>
    have evolves := Operation.evolves_perform regular operation rewinds
    intro torn
    rw [evolves.initialized] at torn
    rw [evolves.idle torn, evolves.capacity]
    exact emptied torn
  | true =>
    cases operation with
    | reset => exact fun torn => ⟨rfl, (emptied torn).2⟩
    | teardown => exact fun _ => ⟨emptied.teardown.used, emptied.teardown.capacity⟩
    | _ => cases rewinds

theorem emptied_of_reached {config : Config} {requested : Nat} {heap : Heap}
    (reached : Reached config requested heap) : heap.Emptied := by
  induction reached with
  | new made =>
    obtain ⟨arena, -⟩ := new_eq_ok made
    rw [Emptied, Arena.eq_of_new arena]
    exact nofun
  | perform before operation emptied =>
    exact emptied_perform (tracked_of_reached before).regular emptied operation

/-! ## 2. Nothing is made -/

namespace TornDown

variable (torn : heap.TornDown)
include torn

theorem allocate (size : Nat) :
    Arena.allocate size heap.arena = ⟨.error .uninitialized, heap.arena, []⟩ := by
  simp [Arena.allocate, torn.initialized]

theorem request {α : Type} (size : Nat) (next : Block → HeapAction α) :
    (onArena (fun _ e => e) (Arena.allocate size) >>= next) heap =
      ⟨.error (.refused (.outOfMemory .uninitialized)), heap, []⟩ :=
  bind_apply_of_error (onArena_apply (torn.allocate size))

theorem allocRecord (kind : RecordKind) (size : Nat) : Heap.allocRecord kind size heap =
    ⟨.error (.refused (.outOfMemory .uninitialized)), heap, []⟩ :=
  torn.request size _

theorem allocProperties (capacity : UInt32) : Heap.allocProperties capacity heap =
    ⟨.error (.refused (.outOfMemory .uninitialized)), heap, []⟩ :=
  torn.allocRecord ..

theorem allocElements (capacity : UInt32) : Heap.allocElements capacity heap =
    ⟨.error (.refused (.outOfMemory .uninitialized)), heap, []⟩ :=
  torn.allocRecord ..

theorem allocShape (proto : Handle) (propSize : UInt32) : Heap.allocShape proto propSize heap =
    ⟨.error (.refused (.outOfMemory .uninitialized)), heap, []⟩ :=
  bind_apply_of_error (torn.allocRecord ..)

/-- A null-like shape is not looked up, so the arena is asked first. -/
theorem allocObject_of_null {shape : Handle} (null : shape.isNull = true) (classId : UInt16) :
    Heap.allocObject shape classId heap =
      ⟨.error (.refused (.outOfMemory .uninitialized)), heap, []⟩ := by
  have refused := torn.allocRecord .object Layout.object.size
  unfold Heap.allocObject
  simp only [if_pos null, bind, Action.bind, pure_apply, refused, List.append_nil]

/-- Any other shape is looked up first. -/
theorem allocObject_of_some {shape : Handle} (some : shape.isNull = false) (classId : UInt16) :
    Heap.allocObject shape classId heap =
      ⟨.error (.refused .invalidHandle), heap, [.unresolved shape .shape]⟩ := by
  unfold Heap.allocObject
  simp only [some]
  exact look_bind_of_error _ (tryGet_of_dead (torn.dead shape) ShapeField.propSize)

theorem findShape (proto : Handle) : heap.findShape proto = pure none := by
  have empty : heap.buckets.head (heap.bucketOf proto.shapeHash) = .null := by
    rw [ShapeBuckets.head, torn.heads]
    rfl
  rw [Heap.findShape, empty, findFrom.eq_def]
  rfl

theorem internShape (proto : Handle) : Heap.internShape proto heap =
    ⟨.error (.refused (.outOfMemory .uninitialized)), heap, []⟩ := by
  rw [show Heap.internShape proto heap = _ from look_bind_of_pure _ (torn.findShape proto)]
  exact bind_apply_of_error (torn.allocShape ..)

theorem removeRoot (id : RootId) : Heap.removeRoot id heap = ⟨.ok false, heap, []⟩ := by
  have unused : (heap.roots.get? id).isSome = false := by
    rw [torn.roots]
    rfl
  simp only [Heap.removeRoot, onRoots, RootSet.remove_of_unused unused]

end TornDown

/-! ## 3. One operation -/

/-- An operation leaves a heap that was torn down as it is, unless it rewinds the arena. -/
theorem state_of_torn_down (torn : heap.TornDown) {operation : Operation Handle}
    (onward : operation.rewinds = false) : (operation.perform heap).state = heap := by
  cases about : operation.subject? with
  | some target => exact (Operation.perform_of_dead about (torn.dead target)).state
  | none =>
    cases operation with
    | allocObject shape classId =>
      rw [show (Operation.perform (.allocObject shape classId) heap).state = _ from
        state_bind_pure ..]
      cases null : shape.isNull with
      | true => rw [torn.allocObject_of_null null]
      | false => rw [torn.allocObject_of_some null]
    | allocShape proto propSize =>
      rw [Operation.perform, bind_apply_of_error (torn.allocShape ..)]
    | allocProperties capacity =>
      rw [Operation.perform, bind_apply_of_error (torn.allocProperties capacity)]
    | allocElements capacity =>
      rw [Operation.perform, bind_apply_of_error (torn.allocElements capacity)]
    | reserve size => rw [Operation.perform, torn.request]
    | removeRoot id =>
      rw [Operation.perform, bind_apply_of_ok (torn.removeRoot id)]
      rfl
    | internShape proto => rw [Operation.perform, bind_apply_of_error (torn.internShape proto)]
    | chainContains start target =>
      rw [show (Operation.perform (.chainContains start target) heap).state = _ from
        state_bind_pure ..]
      exact state_chainContains ..
    | reset => cases onward
    | teardown => cases onward
    -- The others look at the heap, or have a target.
    | _ => first | exact state_bind_pure .. | cases about

/-- No operation leads out. -/
theorem TornDown.perform (torn : heap.TornDown) (operation : Operation Handle) :
    TornDown (operation.perform heap).state := by
  cases rewinds : operation.rewinds with
  | false =>
    rw [state_of_torn_down torn rewinds]
    exact torn
  | true =>
    cases operation with
    | reset => exact torn_down_endAll torn.initialized rfl torn.capacity
    | teardown => exact Emptied.teardown fun _ => ⟨torn.used, torn.capacity⟩
    | _ => cases rewinds

theorem TornDown.run (torn : heap.TornDown) (operations : List (Operation Handle)) :
    TornDown (heap.run operations) := by
  induction operations generalizing heap with
  | nil => exact torn
  | cons operation rest ih => exact ih (torn.perform operation)

instance : Chained fun before after : Heap => before.TornDown → after.TornDown where
  refl _ := id
  trans first second := second ∘ first

/-- No script leads out, nor does a walk whose body changes the heap. -/
theorem TornDown.script {ρ : Type} {session : Session} (torn : session.heap.TornDown)
    (read : List Handle → ρ → Handle) (script : Script ρ) :
    TornDown (script.run read session).heap := by
  have keeps (operation : Operation Handle) :
      operation.perform.Keeps fun before after : Heap => before.TornDown → after.TornDown :=
    ⟨fun _ torn => torn.perform operation⟩
  exact Session.related_run keeps read script session torn

/-! ## 4. Result -/

/-- A heap in which nothing lives, has a root, or is interned, and nothing can be made. -/
structure Barren (heap : Heap) : Prop where
  dead : ∀ handle, heap.isLive handle = false
  getRoot : ∀ id, heap.getRoot id = none
  roots : heap.roots.toList = []
  /-- No handle is live, no root is in use and no shape is counted as interned. The arena has no
  bytes and uses none. -/
  stats : heap.stats.liveHandles = 0 ∧ heap.stats.roots = 0 ∧ heap.stats.hashedShapes = 0 ∧
    heap.stats.arenaUsed = 0 ∧ heap.stats.arenaCapacity = 0
  allocate : ∀ size, Arena.allocate size heap.arena = ⟨.error .uninitialized, heap.arena, []⟩
  allocShape : ∀ proto propSize, Heap.allocShape proto propSize heap =
    ⟨.error (.refused (.outOfMemory .uninitialized)), heap, []⟩
  allocProperties : ∀ capacity, Heap.allocProperties capacity heap =
    ⟨.error (.refused (.outOfMemory .uninitialized)), heap, []⟩
  allocElements : ∀ capacity, Heap.allocElements capacity heap =
    ⟨.error (.refused (.outOfMemory .uninitialized)), heap, []⟩
  internShape : ∀ proto, Heap.internShape proto heap =
    ⟨.error (.refused (.outOfMemory .uninitialized)), heap, []⟩
  allocObject_of_null : ∀ shape classId, shape.isNull = true → Heap.allocObject shape classId heap =
    ⟨.error (.refused (.outOfMemory .uninitialized)), heap, []⟩
  allocObject_of_some : ∀ shape classId, shape.isNull = false → Heap.allocObject shape classId heap =
    ⟨.error (.refused .invalidHandle), heap, [.unresolved shape .shape]⟩
  findShape : ∀ proto, heap.findShape proto = pure none

theorem TornDown.barren (torn : heap.TornDown) : heap.Barren where
  dead := torn.dead
  getRoot id := by
    rw [Heap.getRoot, torn.roots]
    rfl
  roots := by
    rw [torn.roots]
    rfl
  stats := by
    refine ⟨torn.live, ?_, torn.hashed, torn.used, torn.capacity⟩
    show heap.roots.count = 0
    rw [torn.roots]
    rfl
  allocate := torn.allocate
  allocShape := torn.allocShape
  allocProperties := torn.allocProperties
  allocElements := torn.allocElements
  internShape := torn.internShape
  allocObject_of_null _ classId null := torn.allocObject_of_null null classId
  allocObject_of_some _ classId some := torn.allocObject_of_some some classId
  findShape := torn.findShape

/-- Whatever a session did, after `teardown` its heap is barren and stays so, through any further
operations, `reset` and `teardown` among them, and through any script with walks that change it. -/
theorem barren_of_teardown {config : Config} {requested : Nat} {heap : Heap}
    (reached : Reached config requested heap) :
    let torn := (Operation.teardown.perform heap).state
    (∀ operations, (torn.run operations).Barren) ∧
      ∀ (ρ : Type) (read : List Handle → ρ → Handle) (script : Script ρ),
        (script.run read (Session.start torn 0)).heap.Barren := by
  intro torn
  have down : torn.TornDown := (emptied_of_reached reached).teardown
  refine ⟨fun operations => ?_, fun ρ read script => ?_⟩
  · exact (down.run operations).barren
  · have begun : (Session.start torn 0).heap.TornDown := down
    exact (begun.script read script).barren

/-- Resetting the heap of a session that was torn down does not bring it back. -/
theorem barren_small :
    let torn := (Operation.teardown.perform (newSmall.run smallSession)).state
    Reached { arenaCapacity := 1024 } (runCounting 0 newSmall smallSession).1
        (newSmall.run smallSession) ∧
      Barren (torn.run [.reset, .allocShape .null 2, .teardown, .reset]) ∧
      (internShape .null (torn.run [.reset])).answer =
        .error (.refused (.outOfMemory .uninitialized)) := by
  intro torn
  obtain ⟨run, -⟩ := barren_of_teardown reached_smallSession
  exact ⟨reached_smallSession, run _, congrArg Outcome.answer ((run [.reset]).internShape .null)⟩

end Heap

end HandleHeap
