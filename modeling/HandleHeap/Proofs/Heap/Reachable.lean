import HandleHeap.Proofs.Heap.Frame

/-!
# Heaps that a session can reach

A heap is reached from a new one by operations that answer, are refused or end in a fault, in any
order. Along the way `requested` counts how far requests have moved the bump offset since it was
last rewound. While the count is below 2 ^ 64,

* `separated_of_reached`: the records lie apart, each where one of its kind can be and below the
  offset;
* `frame_of_reached`: an operation leaves the records it does not write as they are, and a walk
  that only reads leaves the heap as it is.

Earlier sessions do not matter. They may have taken the offset around 2 ^ 64 and their records may
have overlapped, but rewinding ends them all.
-/

namespace HandleHeap

open HandleHeap.Action

/-- How far the bump offset moved, around its 64 bits. The padded sizes asked for add up to at
least that, so a bound on them is a bound on this. -/
def Heap.advance (before after : Heap) : Nat :=
  (after.arena.used + sizeLimit - before.arena.used) % sizeLimit

/-- What was requested since the last rewind, once an operation was run as well. -/
def Operation.requested (operation : Operation Handle) (heap : Heap) (requested : Nat) : Nat :=
  if operation.rewinds then 0 else requested + heap.advance (operation.perform heap).state

/-- The heaps that operations reach from a new one, with what was requested of the arena since it
was last rewound. -/
inductive Heap.Reached (config : Config) : (requested : Nat) → Heap → Prop
  | new {grants : Nat → Bool} {heap : Heap} :
      (Heap.new grants config).answer = .ok heap → Reached config 0 heap
  | perform {requested : Nat} {heap : Heap} :
    Reached config requested heap → (operation : Operation Handle) →
      Reached config (operation.requested heap requested) (operation.perform heap).state

namespace Heap

/-! ## 1. The invariant -/

/-- What holds of every heap that is reached. What depends on the count holds while it is below
2 ^ 64. -/
structure Tracked (requested : Nat) (heap : Heap) : Prop where
  regular : heap.arena.Regular
  room : 2 * heap.arena.capacity < sizeLimit
  torn : heap.arena.initialized = false → heap.arena.used = 0
  sound : requested < sizeLimit → heap.Sound ∧ heap.arena.used = requested

/-- A heap without records whose offset is at the start. -/
theorem tracked_of_dead {heap : Heap} (dead : ∀ handle, heap.handles.resolve handle = none)
    (regular : heap.arena.Regular) (room : 2 * heap.arena.capacity < sizeLimit)
    (used : heap.arena.used = 0) : Tracked 0 heap := by
  have none {handle placement} {p : Prop}
      (known : heap.handles.resolve handle = some placement) : p := by
    rw [dead] at known
    cases known
  exact ⟨regular, room, fun _ => used,
    fun _ => ⟨⟨⟨regular, room, fun known => none known, fun _ known => none known⟩,
      fun known => none known⟩, used⟩⟩

/-- The parts that a new heap is made of. -/
theorem new_eq_ok {grants : Nat → Bool} {config : Config} {heap : Heap}
    (h : (Heap.new grants config).answer = .ok heap) :
    (Arena.new grants config.arenaCapacity).answer = .ok heap.arena ∧
      HandleTable.withCapacity Placement.entrySize config.initialHandles config.maxHandles =
        .ok heap.handles ∧
      heap.config = config ∧ heap.buckets = .new config.shapeHashBits ∧ heap.roots = .empty := by
  obtain ⟨arena, made, rest⟩ := Report.bind_eq_ok h
  obtain ⟨handles, empty, rest⟩ := Report.bind_eq_ok rest
  cases rest
  refine ⟨Report.mapError_eq_ok made, ?_, rfl, rfl, rfl⟩
  cases given : HandleTable.withCapacity (α := Placement) Placement.entrySize
    config.initialHandles config.maxHandles with
  | ok table =>
    rw [given] at empty
    cases empty
    rfl
  | error e =>
    rw [given] at empty
    cases empty

theorem tracked_new {grants : Nat → Bool} {config : Config} {heap : Heap}
    (h : (Heap.new grants config).answer = .ok heap) :
    Tracked 0 heap := by
  obtain ⟨arena, table, -⟩ := new_eq_ok h
  obtain ⟨room, used⟩ := Arena.room_of_new arena
  exact tracked_of_dead (HandleTable.resolve_withCapacity table) (Arena.regular_new arena) room used

theorem state_teardown (heap : Heap) : (Operation.teardown.perform heap).state =
    { heap.endAll with arena := (Arena.teardown (ε := AllocError) heap.arena).state } := by
  obtain ⟨config, ⟨memory, capacity, used, epoch, initialized⟩, handles, buckets, roots⟩ := heap
  cases initialized <;> rfl

/-- Rewinding ends all records, also those of a session that went around 2 ^ 64. -/
theorem Tracked.rewind {requested : Nat} {heap : Heap} (tracked : heap.Tracked requested)
    {operation : Operation Handle} (rewinds : operation.rewinds = true) :
    Tracked 0 (operation.perform heap).state := by
  have dead (handle : Handle) : heap.endAll.handles.resolve handle = none :=
    HandleTable.resolve_invalidateAll heap.handles handle
  cases operation with
  | reset =>
    exact tracked_of_dead dead (Arena.Regular.reset (ε := AllocError) tracked.regular)
      tracked.room rfl
  | teardown =>
    rw [state_teardown]
    have used : (Arena.teardown (ε := AllocError) heap.arena).state.used = 0 := by
      unfold Arena.teardown
      split
      · rfl
      · next torn => exact tracked.torn (Bool.eq_false_iff.mpr torn)
    have room : 2 * (Arena.teardown (ε := AllocError) heap.arena).state.capacity < sizeLimit := by
      unfold Arena.teardown
      split
      · exact Arena.sizeLimit_pos
      · exact tracked.room
    exact tracked_of_dead dead tracked.regular.teardown room used
  | _ => cases rewinds

theorem Tracked.perform {requested : Nat} {heap : Heap} (tracked : heap.Tracked requested)
    (operation : Operation Handle) :
    Tracked (operation.requested heap requested) (operation.perform heap).state := by
  unfold Operation.requested
  cases rewinds : operation.rewinds with
  | true => exact tracked.rewind rewinds
  | false =>
    have evolves := Operation.evolves_perform tracked.regular operation rewinds
    refine ⟨evolves.regular, by rw [evolves.capacity]; exact tracked.room, fun torn => ?_,
      fun few => ?_⟩
    · rw [evolves.initialized] at torn
      rw [evolves.idle torn]
      exact tracked.torn torn
    · simp only [Bool.false_eq_true, if_false] at few ⊢
      obtain ⟨sound, used⟩ := tracked.sound (Nat.lt_of_le_of_lt (Nat.le_add_right ..) few)
      have leaves := Operation.leaves_perform sound operation rewinds
      have start := tracked.regular.used_lt
      have stop := evolves.regular.used_lt
      -- The count is the offset, since it stays below 2 ^ 64.
      have count : (operation.perform heap).state.arena.used =
          requested + heap.advance (operation.perform heap).state := by
        unfold advance sizeLimit at *
        omega
      refine ⟨{ leaves.separated with below := ?_ }, count⟩
      cases answer : (operation.perform heap).answer with
      | ok _ => exact (leaves.answered answer).below
      | error _ =>
        rcases leaves.stopped answer with below | wrapped
        · exact below
        · have down := wrapped.used
          omega

theorem tracked_of_reached {config : Config} {requested : Nat} {heap : Heap}
    (reached : Reached config requested heap) : heap.Tracked requested := by
  induction reached with
  | new made => exact tracked_new made
  | perform _ operation ih => exact ih.perform operation

/-- A run of operations, with what was requested since the last rewind. -/
def runCounting (requested : Nat) (heap : Heap) (operations : List (Operation Handle)) :
    Nat × Heap :=
  operations.foldl
    (fun (requested, heap) operation =>
      (operation.requested heap requested, (operation.perform heap).state))
    (requested, heap)

theorem runCounting_snd (requested : Nat) (heap : Heap) (operations : List (Operation Handle)) :
    (runCounting requested heap operations).2 = heap.run operations := by
  induction operations generalizing requested heap with
  | nil => rfl
  | cons operation rest ih => exact ih ..

theorem runCounting_append (requested : Nat) (heap : Heap)
    (first rest : List (Operation Handle)) : runCounting requested heap (first ++ rest) =
      runCounting (runCounting requested heap first).1 (heap.run first) rest := by
  rw [← runCounting_snd requested]
  exact List.foldl_append

/-- Operations that do not rewind the arena ask for more of it, if anything. -/
theorem le_runCounting (requested : Nat) (heap : Heap) {operations : List (Operation Handle)}
    (onward : ∀ operation ∈ operations, operation.rewinds = false) :
    requested ≤ (runCounting requested heap operations).1 := by
  induction operations generalizing requested heap with
  | nil => exact Nat.le_refl requested
  | cons operation rest ih =>
    obtain ⟨first, rest⟩ := List.forall_mem_cons.mp onward
    refine Nat.le_trans ?_ (ih (operation.requested heap requested) _ rest)
    rw [Operation.requested, first]
    exact Nat.le_add_right ..

/-- The heaps that are reached are those that a run comes to. -/
theorem reached_run {config : Config} {requested : Nat} {heap : Heap}
    (reached : Reached config requested heap) (operations : List (Operation Handle)) :
    Reached config (runCounting requested heap operations).1 (heap.run operations) := by
  rw [← runCounting_snd requested]
  induction operations generalizing requested heap with
  | nil => exact reached
  | cons operation rest ih => exact ih (reached.perform operation)

/-! ## 2. Separation -/

/-- The records of a heap lie apart, padding included. Each is in the current epoch of the arena,
ends inside the arena and below the offset, and is as long as one of its kind. -/
theorem separated_of_reached {config : Config} {requested : Nat} {heap : Heap}
    (reached : Reached config requested heap) (few : requested < sizeLimit) :
    (∀ handle placement, heap.handles.resolve handle = some placement →
      placement.block.epoch = heap.arena.epoch ∧ heap.arena.holds placement.block = true ∧
        placement.block.reservedEnd ≤ heap.arena.used ∧
        placement.block.reservedEnd ≤ heap.arena.capacity ∧
        placement.kind.Allows placement.block.len) ∧
      ∀ a b p q, a ≠ b → heap.handles.resolve a = some p → heap.handles.resolve b = some q →
        p.block.Disjoint q.block := by
  obtain ⟨sound, -⟩ := (tracked_of_reached reached).sound few
  refine ⟨fun handle placement known => ?_, fun _ _ _ _ => sound.apart⟩
  obtain ⟨held, inside, allowed⟩ := sound.placed known
  exact ⟨(Arena.holds_iff.mp held).2.1, held, sound.below known, inside, allowed⟩

/-- A new heap with an arena of 1024 bytes. -/
def newSmall : Heap :=
  ⟨{ arenaCapacity := 1024 }, ⟨.empty, 1024, 0, 0, true⟩, .empty none, .new 8, .empty⟩

theorem new_small : (Heap.new (fun _ => true) { arenaCapacity := 1024 }).answer = .ok newSmall := rfl

/-- A session that makes a shape, an object with it, and an element of the object. -/
def smallSession : List (Operation Handle) :=
  [.allocShape .null 2, .allocObject ⟨1, 0⟩ 7, .pushElement ⟨2, 0⟩ (.int 5)]

theorem reached_smallSession :
    Reached { arenaCapacity := 1024 } (runCounting 0 newSmall smallSession).1
      (newSmall.run smallSession) :=
  reached_run (.new new_small) smallSession

/-- The object and its elements in that session. -/
theorem separated_small :
    let requested := (runCounting 0 newSmall smallSession).1
    Reached { arenaCapacity := 1024 } requested (newSmall.run smallSession) ∧
      requested < sizeLimit ∧ Block.Disjoint ⟨48, 40, 0⟩ ⟨144, 64, 0⟩ := by
  have few : (runCounting 0 newSmall smallSession).1 < sizeLimit := by decide +kernel
  have object : (newSmall.run smallSession).handles.resolve ⟨2, 0⟩ =
      some ⟨⟨48, 40, 0⟩, .object, false⟩ := by decide +kernel
  have elements : (newSmall.run smallSession).handles.resolve ⟨4, 0⟩ =
      some ⟨⟨144, 64, 0⟩, .elementArray, false⟩ := by decide +kernel
  have apart := (separated_of_reached reached_smallSession few).2
  exact ⟨reached_smallSession, few, apart _ _ _ _ (by decide) object elements⟩

/-! ## 3. Frames -/

/-- An operation leaves the live records it does not write as they are, whether it answers, is
refused or ends in a fault. A walk whose body only reads, and a search, leave the heap as it is. -/
theorem frame_of_reached {config : Config} {requested : Nat} {heap : Heap}
    (reached : Reached config requested heap) (few : requested < sizeLimit) :
    (∀ operation : Operation Handle, operation.rewinds = false →
      ∀ handle, heap.isLive handle = true → ¬ operation.Writes heap handle →
        (operation.perform heap).state.isLive handle = heap.isLive handle ∧
          (operation.perform heap).state.kind? handle = heap.kind? handle ∧
          (operation.perform heap).state.isPinned handle = heap.isPinned handle ∧
          (operation.perform heap).state.bytes? handle = heap.bytes? handle) ∧
      ∀ (σ β : Type) (start : Handle) (own : σ),
        (∀ body : σ → Handle → HeapAction (σ × Option β),
          (∀ own object heap, (body own object heap).state = heap) →
            (walk start own body heap).state = heap) ∧
        (∀ body : σ → Handle → Handle → HeapAction (σ × Option β),
          (∀ own object shape heap, (body own object shape heap).state = heap) →
            (walkWithShape start own body heap).state = heap) ∧
        ∀ test, (search start own test heap).state = heap := by
  obtain ⟨sound, -⟩ := (tracked_of_reached reached).sound few
  refine ⟨fun operation onward handle live spared => ?_, fun σ β start own => ⟨?_, ?_, ?_⟩⟩
  · have kept : ¬ (operation.Writes heap handle ∨ heap.Dead handle) := by
      rintro (written | dead)
      · exact spared written
      · exact Bool.false_ne_true (dead.symm.trans live)
    have same := (Operation.leaves_perform sound operation onward).same kept
    have resolve := same.resolve
    refine ⟨HandleTable.isLive_congr resolve, ?_, ?_, same.bytes⟩
    · simp only [kind?, resolve]
    · simp only [isPinned, resolve]
  · intro body reads
    have unchanged : (walk start own body).Keeps fun before after : Heap => after = before :=
      keeps_walk (fun own object => ⟨reads own object⟩) start own
    exact unchanged.step heap
  · intro body reads
    have unchanged : (walkWithShape start own body).Keeps
        fun before after : Heap => after = before :=
      keeps_walkWithShape (fun own object shape => ⟨reads own object shape⟩) start own
    exact unchanged.step heap
  · intro test
    have unchanged : (search start own test).Keeps fun before after : Heap => after = before :=
      keeps_search start own test
    exact unchanged.step heap

/-- Moving the elements in that session leaves the object where it is, and asking the object for
its shape leaves the heap as it is. -/
theorem frame_small :
    let heap := newSmall.run smallSession
    (runCounting 0 newSmall smallSession).1 < sizeLimit ∧
      ((Operation.relocate ⟨4, 0⟩).perform heap).state.bytes? ⟨2, 0⟩ = heap.bytes? ⟨2, 0⟩ ∧
      (walk ⟨2, 0⟩ () (fun _ object => do
        let shape ← Action.look (·.get object ObjectField.shape)
        return ((), some shape)) heap).state = heap := by
  have few : (runCounting 0 newSmall smallSession).1 < sizeLimit := by decide +kernel
  obtain ⟨operations, walks⟩ := frame_of_reached reached_smallSession few
  have kept := operations (.relocate ⟨4, 0⟩) rfl ⟨2, 0⟩ (by decide +kernel)
    (show ¬ (⟨2, 0⟩ : Handle) = ⟨4, 0⟩ by decide)
  have reads (own : Unit) (object : Handle) : (do
        let shape ← Action.look (·.get object ObjectField.shape)
        return ((), some shape) : HeapAction (Unit × Option Handle)).Keeps
      fun before after : Heap => after = before :=
    keeps_bind (keeps_look _) fun _ => keeps_pure _
  have walked := (walks Unit Handle ⟨2, 0⟩ ()).1 _ fun own object => (reads own object).step
  exact ⟨few, kept.2.2.2, walked⟩

end Heap

end HandleHeap
