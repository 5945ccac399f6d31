import HandleHeap.Proofs.Handle.Resolution
import HandleHeap.Proofs.Heap.Parts

/-!
# Records that lie apart

The memory of live records is kept apart by the arena, the handle table and the lengths that the
kinds allow together. This file says what that means and what each change to a part of the heap
does to it.

* `Heap.Separated`: every record is where one of its kind can be, and no two share a byte.
* `Heap.Below`: the bump offset is beyond all records, so the next block is apart from them too.
* `Heap.Touches writes before after`: records were changed or ended, and only those in `writes`.
* `Heap.Leaves writes before action`: blocks may have been taken as well. `Leaves.bind` goes from
  one part of an operation to the next.
-/

namespace HandleHeap

/-- The lengths that the records of a kind have. -/
def RecordKind.Allows : RecordKind → Nat → Prop
  | .object, len | .shape, len => len = 40
  | .propertyArray, len => ∃ slots, 0 < slots ∧ slots < 2 ^ 32 ∧ len = slots * 24
  | .elementArray, len => ∃ cells, 0 < cells ∧ cells < 2 ^ 32 ∧ len = cells * 16

namespace Heap

/-! ## 1. The invariant -/

/-- A record is where one of its kind can be. -/
structure Placed (heap : Heap) (placement : Placement) : Prop where
  held : heap.arena.holds placement.block = true
  inside : placement.block.reservedEnd ≤ heap.arena.capacity
  allowed : placement.kind.Allows placement.block.len

/-- The live records lie apart, padding included. -/
structure Separated (heap : Heap) : Prop where
  regular : heap.arena.Regular
  /-- A request that is larger than the arena is never added to the offset, so with this an offset
  that goes around 2 ^ 64 was beyond the arena before. -/
  room : 2 * heap.arena.capacity < sizeLimit
  placed : ∀ {handle placement}, heap.handles.resolve handle = some placement →
    heap.Placed placement
  apart : ∀ {a b p q}, a ≠ b → heap.handles.resolve a = some p → heap.handles.resolve b = some q →
    p.block.Disjoint q.block

/-- The live records end, padding included, at or below the bump offset. -/
def Below (heap : Heap) : Prop :=
  ∀ {handle placement}, heap.handles.resolve handle = some placement →
    placement.block.reservedEnd ≤ heap.arena.used

/-- A heap whose next block will be apart from its records. -/
structure Sound (heap : Heap) : Prop extends Separated heap where
  below : heap.Below

/-! ## 2. Changes that take no block -/

/-- A record is as it was: the same block, kind and pin, and the same bytes. -/
structure Same (handle : Handle) (before after : Heap) : Prop where
  resolve : after.handles.resolve handle = before.handles.resolve handle
  bytes : after.bytes? handle = before.bytes? handle

theorem Same.refl (handle : Handle) (heap : Heap) : Same handle heap heap := ⟨rfl, rfl⟩

theorem Same.trans {handle : Handle} {a b c : Heap} (first : Same handle a b)
    (second : Same handle b c) : Same handle a c :=
  ⟨second.resolve.trans first.resolve, second.bytes.trans first.bytes⟩

theorem Same.of_bytes {handle : Handle} {before after : Heap}
    (resolve : after.handles.resolve handle = before.handles.resolve handle)
    (bytes : ∀ placement, before.handles.resolve handle = some placement →
      after.arena.bytes? placement.block = before.arena.bytes? placement.block) :
    Same handle before after := by
  refine ⟨resolve, ?_⟩
  unfold bytes?
  rw [resolve]
  cases known : before.handles.resolve handle with
  | none => rfl
  | some placement => exact bytes placement known

/-- Records were changed or ended, and only those in `writes`. No block was taken. -/
structure Touches (writes : Handle → Prop) (before after : Heap) : Prop where
  separated : after.Separated
  capacity : after.arena.capacity = before.arena.capacity
  used : after.arena.used = before.arena.used
  same : ∀ {handle}, ¬ writes handle → Same handle before after
  /-- Every block that is still in use was in use by the same handle. -/
  blocks : ∀ {handle q}, after.handles.resolve handle = some q →
    ∃ p, before.handles.resolve handle = some p ∧ p.block = q.block

variable {writes : Handle → Prop} {before after heap : Heap}

theorem Touches.mono {more : Handle → Prop} (h : Touches writes before after)
    (imp : ∀ {handle}, writes handle → more handle) : Touches more before after :=
  { h with same := fun none => h.same fun some => none (imp some) }

theorem Separated.idle (separated : heap.Separated) : Touches writes heap heap :=
  ⟨separated, rfl, rfl, fun _ => .refl _ heap, fun known => ⟨_, known, rfl⟩⟩

theorem Touches.trans {middle : Heap} (first : Touches writes before middle)
    (second : Touches writes middle after) : Touches writes before after where
  separated := second.separated
  capacity := second.capacity.trans first.capacity
  used := second.used.trans first.used
  same none := (first.same none).trans (second.same none)
  blocks known := by
    obtain ⟨q, between, same⟩ := second.blocks known
    obtain ⟨p, start, same'⟩ := first.blocks between
    exact ⟨p, start, same'.trans same⟩

/-- The same as a relation between any two heaps. -/
def Touching (writes : Handle → Prop) (before after : Heap) : Prop :=
  before.Separated → Touches writes before after

instance (writes : Handle → Prop) : Chained (Touching writes) where
  refl _ separated := separated.idle
  trans first second separated :=
    have middle := first separated
    middle.trans (second middle.separated)

theorem touches_of_fewer {α : Type} {action : HeapAction α} {fewer : Handle → Prop}
    (h : action.Keeps (Touching fewer)) (imp : ∀ {handle}, fewer handle → writes handle) :
    action.Keeps (Touching writes) :=
  h.mono fun _ _ touching separated => (touching separated).mono imp

theorem Touches.below (h : Touches writes before after) (below : before.Below) : after.Below := by
  intro handle placement known
  obtain ⟨p, start, same⟩ := h.blocks known
  rw [← same, h.used]
  exact below start

theorem Placed.of_arena {placement : Placement} (placed : before.Placed placement)
    (capacity : after.arena.capacity = before.arena.capacity)
    (epoch : after.arena.epoch = before.arena.epoch)
    (initialized : after.arena.initialized = before.arena.initialized) : after.Placed placement :=
  ⟨by rw [Arena.holds_congr capacity epoch initialized]; exact placed.held,
    capacity ▸ placed.inside, placed.allowed⟩

/-- Changing bytes of a record's own block changes that record alone. -/
theorem Separated.write (separated : heap.Separated) {handle : Handle} {placement : Placement}
    (known : heap.handles.resolve handle = some placement) {arena : Arena}
    (changed : Arena.OnlyIn placement.block heap.arena arena) :
    Touches (· = handle) heap { heap with arena } where
  separated :=
    { regular := separated.regular.onlyIn changed
      room := by rw [changed.capacity]; exact separated.room
      placed := fun known =>
        (separated.placed known).of_arena changed.capacity changed.epoch changed.initialized
      apart := separated.apart }
  capacity := changed.capacity
  used := changed.used
  same other := .of_bytes rfl fun _ known' => changed.bytes?_eq (separated.apart other known' known)
  blocks known := ⟨_, known, rfl⟩

/-- What does not go through the arena or the handle table touches no record. -/
theorem Separated.sideTables (separated : heap.Separated) (buckets : ShapeBuckets)
    (roots : RootSet) : Touches writes heap { heap with buckets, roots } where
  separated :=
    { regular := separated.regular
      room := separated.room
      placed := fun known => (separated.placed known).of_arena rfl rfl rfl
      apart := separated.apart }
  capacity := rfl
  used := rfl
  same _ := ⟨rfl, rfl⟩
  blocks known := ⟨_, known, rfl⟩

instance (writes : Handle → Prop) : KeptBySideTables (Touching writes) where
  sideTables _ buckets roots _ separated := separated.sideTables buckets roots

/-- Handles were ended, and no other changed. -/
theorem Separated.forget (separated : heap.Separated) {handles : HandleTable Placement}
    (known : ∀ {other p}, handles.resolve other = some p → heap.handles.resolve other = some p)
    (same : ∀ {other}, ¬ writes other → handles.resolve other = heap.handles.resolve other) :
    Touches writes heap { heap with handles } where
  separated :=
    { regular := separated.regular
      room := separated.room
      placed := fun live => (separated.placed (known live)).of_arena rfl rfl rfl
      apart := fun differ live live' => separated.apart differ (known live) (known live') }
  capacity := rfl
  used := rfl
  same none := .of_bytes (same none) fun _ _ => rfl
  blocks live := ⟨_, known live, rfl⟩

/-- A handle is pointed to a place that is apart from the other records. -/
theorem Separated.link (separated : heap.Separated) {handle : Handle} {placement : Placement}
    {handles : HandleTable Placement} (resolve : ∀ other, handles.resolve other =
      if other = handle then some placement else heap.handles.resolve other)
    (placed : heap.Placed placement)
    (apart : ∀ {other p}, other ≠ handle → heap.handles.resolve other = some p →
      p.block.Disjoint placement.block) :
    Separated { heap with handles } ∧
      ∀ {other}, other ≠ handle → Same other heap { heap with handles } := by
  have linked : handles.resolve handle = some placement := (resolve _).trans (if_pos rfl)
  have others {other} (differ : other ≠ handle) :
      handles.resolve other = heap.handles.resolve other := (resolve _).trans (if_neg differ)
  refine ⟨⟨separated.regular, separated.room, ?_, ?_⟩, ?_⟩
  · intro other p live
    by_cases own : other = handle
    · cases own
      cases linked.symm.trans live
      exact placed.of_arena rfl rfl rfl
    · exact (separated.placed ((others own).symm.trans live)).of_arena rfl rfl rfl
  · intro a b p q differ live live'
    -- Only a pair with `handle` is new, and it may be the first of the two or the second.
    by_cases own : a = handle
    · cases own
      cases linked.symm.trans live
      have other := Ne.symm differ
      exact (apart other ((others other).symm.trans live')).symm
    · have first := (others own).symm.trans live
      by_cases own' : b = handle
      · cases own'
        cases linked.symm.trans live'
        exact apart own first
      · exact separated.apart differ first ((others own').symm.trans live')
  · intro other differ
    exact .of_bytes (others differ) fun _ _ => rfl

/-- Only the pin of a record changes. -/
theorem Separated.repin (separated : heap.Separated) {handle : Handle} {placement : Placement}
    (known : heap.handles.resolve handle = some placement) (pinned : Bool)
    {handles : HandleTable Placement} (resolve : ∀ other, handles.resolve other =
      if other = handle then some { placement with pinned } else heap.handles.resolve other) :
    Touches (· = handle) heap { heap with handles } := by
  have placed := separated.placed known
  have apart {other p} (differ : other ≠ handle) (live : heap.handles.resolve other = some p) :
      p.block.Disjoint placement.block := separated.apart differ live known
  obtain ⟨separated', same⟩ := separated.link resolve
    ⟨placed.held, placed.inside, placed.allowed⟩ apart
  refine ⟨separated', rfl, rfl, same, fun {other q} live => ?_⟩
  by_cases own : other = handle
  · cases own
    cases ((resolve _).trans (if_pos rfl)).symm.trans live
    exact ⟨placement, known, rfl⟩
  · exact ⟨q, ((resolve _).trans (if_neg own)).symm.trans live, rfl⟩

/-! ## 3. Changes that take blocks -/

/-- The offset is beyond all records, and was not moved or is inside the arena. -/
structure Settled (before after : Heap) : Prop where
  below : after.Below
  used : after.arena.used = before.arena.used ∨ after.arena.used ≤ after.arena.capacity

/-- The offset went around 2 ^ 64. It was beyond the arena then, so the request was refused. -/
structure Wrapped (before after : Heap) : Prop where
  beyond : after.arena.capacity < before.arena.used
  used : after.arena.used < before.arena.used

/-- What is left of a sound heap. Blocks may have been taken, and of the records that were there
only those in `writes` were changed, ended or moved. -/
structure Aftermath {α : Type} (writes : Handle → Prop) (before : Heap)
    (out : Outcome Stop Heap α) : Prop where
  separated : out.state.Separated
  capacity : out.state.arena.capacity = before.arena.capacity
  same : ∀ {handle}, ¬ writes handle → Same handle before out.state
  answered : ∀ {a}, out.answer = .ok a → Settled before out.state
  stopped : ∀ {stop}, out.answer = .error stop → out.state.Below ∨ Wrapped before out.state

variable {α β : Type}

/-- What an operation leaves of a sound heap. -/
def Leaves (writes : Handle → Prop) (before : Heap) (action : HeapAction α) : Prop :=
  Aftermath writes before (action before)

theorem Leaves.mono {action : HeapAction α} {more : Handle → Prop}
    (h : Leaves writes before action) (imp : ∀ {handle}, writes handle → more handle) :
    Leaves more before action :=
  { h with same := fun none => h.same fun some => none (imp some) }

/-- A change that takes no block leaves the next one apart. -/
theorem Touches.sound (h : Touches writes before after) (sound : before.Sound) : after.Sound :=
  { h.separated with below := h.below sound.below }

theorem Touches.aftermath {out : Outcome Stop Heap α} (h : Touches writes before out.state)
    (below : before.Below) : Aftermath writes before out :=
  ⟨h.separated, h.capacity, h.same, fun _ => ⟨h.below below, .inl h.used⟩,
    fun _ => .inl (h.below below)⟩

theorem Sound.leaves (sound : before.Sound) {action : HeapAction α}
    (touches : action.Keeps (Touching writes)) : Leaves writes before action :=
  (touches.step before sound.toSeparated).aftermath sound.below

theorem Aftermath.sound {out : Outcome Stop Heap α} (h : Aftermath writes before out) {a : α}
    (ok : out.answer = .ok a) : out.state.Sound :=
  { h.separated with below := (h.answered ok).below }

/-- The rest of an operation starts from what its first part leaves. Only a part that is refused
can take the offset around, so the rest starts from a sound heap. -/
theorem Leaves.bind {action : HeapAction α} {next : α → HeapAction β}
    (first : Leaves writes before action)
    (rest : ∀ a after events, action before = ⟨.ok a, after, events⟩ → after.Sound →
      (∀ {handle}, ¬ writes handle → Same handle before after) → Leaves writes after (next a)) :
    Leaves writes before (action >>= next) := by
  unfold Leaves at first ⊢
  rcases run : action before with ⟨stop | a, after, events⟩ <;> rw [run] at first
  · rw [Action.bind_apply_of_error run]
    exact ⟨first.separated, first.capacity, first.same, (nomatch ·),
      fun _ => first.stopped rfl⟩
  · have last := rest a after events run (first.sound rfl) first.same
    have start := first.answered rfl
    rw [Action.bind_apply_of_ok run]
    -- If the rest took the offset around, it was beyond the arena after the first part, which
    -- therefore did not move it.
    refine ⟨last.separated, last.capacity.trans first.capacity,
      fun none => (first.same none).trans (last.same none), fun ok => ?_, fun error => ?_⟩
    · have settled := last.answered ok
      refine ⟨settled.below, ?_⟩
      rcases settled.used with idle | inside
      · rcases start.used with idle' | inside'
        · exact .inl (idle.trans idle')
        · exact .inr (by rw [idle, last.capacity]; exact inside')
      · exact .inr inside
    · rcases last.stopped error with below | wrapped
      · exact .inl below
      · rcases start.used with idle | inside
        · exact .inr ⟨idle ▸ wrapped.beyond, idle ▸ wrapped.used⟩
        · have beyond := wrapped.beyond
          rw [last.capacity] at beyond
          exact absurd inside (Nat.not_le_of_lt beyond)

/-- A report decides what is done and changes nothing. -/
theorem Leaves.look_bind {report : Heap → Report Stop α} {next : α → HeapAction β}
    (sound : before.Sound)
    (rest : ∀ a, (report before).answer = .ok a → Leaves writes before (next a)) :
    Leaves writes before (Action.look report >>= next) := by
  refine (sound.leaves (Action.keeps_look report)).bind fun a after events run _ _ => ?_
  obtain ⟨answer, rfl, -⟩ : (report before).answer = .ok a ∧ before = after ∧
      (report before).events = events := by
    simpa only [Action.look, Outcome.mk.injEq] using run
  exact rest a answer

/-! ## 4. Blocks -/

theorem onArena_apply {ε : Type} {explain : Arena → ε → AllocError} {action : Action ε Arena α}
    {answer : Except ε α} {arena : Arena} {events : List Event}
    (run : action heap.arena = ⟨answer, arena, events⟩) :
    onArena explain action heap =
      ⟨answer.mapError fun e => .refused (.outOfMemory (explain arena e)), { heap with arena },
        events⟩ := by
  simp only [onArena, run]

theorem onTable_apply {action : Action Stop (HandleTable Placement) α}
    {answer : Except Stop α} {handles : HandleTable Placement} {events : List Event}
    (run : action heap.handles = ⟨answer, handles, events⟩) :
    onTable action heap = ⟨answer, { heap with handles }, events⟩ := by
  simp only [onTable, run]

/-- A block that no record has, although it could. -/
structure Fresh (heap : Heap) (block : Block) : Prop where
  held : heap.arena.holds block = true
  inside : block.reservedEnd ≤ heap.arena.capacity
  below : block.reservedEnd ≤ heap.arena.used
  apart : ∀ {handle p}, heap.handles.resolve handle = some p → p.block.Disjoint block

/-- A request changes no record, whatever comes of it. -/
theorem Sound.requested (sound : heap.Sound) (size : Nat) :
    Separated { heap with arena := (Arena.allocate size heap.arena).state } ∧
      (Arena.allocate size heap.arena).state.capacity = heap.arena.capacity ∧
      ∀ handle, Same handle heap { heap with arena := (Arena.allocate size heap.arena).state } := by
  have moved := Arena.state_allocate sound.regular.used_lt size
  have regular := sound.regular.allocate size
  rw [moved] at regular ⊢
  refine ⟨⟨regular, sound.room, fun known => ?_, sound.apart⟩, rfl, fun _ => ⟨rfl, rfl⟩⟩
  exact (sound.placed known).of_arena rfl rfl rfl

/-- The offset moves up, or around 2 ^ 64 if it was beyond the arena. -/
theorem Sound.offset_request (sound : heap.Sound) (size : Nat) :
    Below { heap with arena := (Arena.allocate size heap.arena).state } ∨
      Wrapped heap { heap with arena := (Arena.allocate size heap.arena).state } := by
  have small := Arena.asked_le_capacity heap.arena size
  have room := sound.room
  rcases Arena.used_allocate_cases sound.regular.used_lt size with up | around
  · left
    intro handle placement known
    have := sound.below known
    show _ ≤ (Arena.allocate size heap.arena).state.used
    omega
  · refine .inr ⟨?_, ?_⟩
    · show (Arena.allocate size heap.arena).state.capacity < heap.arena.used
      rw [(sound.requested size).2.1]
      omega
    · show (Arena.allocate size heap.arena).state.used < heap.arena.used
      omega

/-- A block that a request answers is fresh, and the offset stays inside the arena. -/
theorem Sound.given (sound : heap.Sound) {size : Nat} {block : Block} {arena : Arena}
    (answer : (Arena.allocate size heap.arena).answer = .ok block)
    (state : (Arena.allocate size heap.arena).state = arena) :
    Sound { heap with arena } ∧ arena.used ≤ arena.capacity ∧ Fresh { heap with arena } block ∧
      0 < size ∧ block.len = size := by
  obtain ⟨separated, capacity, -⟩ := sound.requested size
  have moved := Arena.state_allocate sound.regular.used_lt size
  obtain ⟨start, stop⟩ := Arena.reservedEnd_of_allocate answer
  obtain ⟨pos, inside, block_eq⟩ := Arena.allocate_eq_ok_iff.mp answer
  rw [Nat.mod_eq_of_lt (Nat.lt_of_le_of_lt inside sound.regular.capacity_lt)] at moved
  rw [state] at separated capacity moved
  have used : arena.used = block.reservedEnd := by rw [moved, stop]
  have below : Below { heap with arena } := by
    intro handle placement known
    have := sound.below known
    show _ ≤ arena.used
    omega
  have held : arena.holds block = true := by
    rw [Arena.holds_congr capacity (by rw [moved]) (by rw [moved]), Arena.holds_iff]
    have len := block.len_le_reserved
    exact ⟨(Arena.asked_eq_of_pos pos).2.1, by rw [block_eq], by omega⟩
  refine ⟨{ separated with below }, by omega, ⟨held, ?_, ?_, ?_⟩,
    (Arena.asked_eq_of_pos pos).2.2.1, by rw [block_eq]⟩
  · show block.reservedEnd ≤ arena.capacity
    omega
  · exact Nat.le_of_eq used.symm
  · intro handle p known
    refine .inl ?_
    rw [start]
    exact sound.below known

/-- Filling a fresh block changes no record. -/
theorem Sound.fill (writes : Handle → Prop) (sound : heap.Sound) {block : Block}
    (fresh : heap.Fresh block) {arena : Arena} (changed : Arena.OnlyIn block heap.arena arena) :
    Touches writes heap { heap with arena } ∧ Fresh { heap with arena } block := by
  refine ⟨⟨⟨sound.regular.onlyIn changed, ?_, fun known => ?_, sound.apart⟩, changed.capacity,
    changed.used, fun _ => ?_, fun known => ⟨_, known, rfl⟩⟩, ⟨?_, ?_, ?_, fresh.apart⟩⟩
  · rw [changed.capacity]
    exact sound.room
  · exact (sound.placed known).of_arena changed.capacity changed.epoch changed.initialized
  · exact .of_bytes rfl fun _ known => changed.bytes?_eq (fresh.apart known)
  · exact (changed.holds_eq block).trans fresh.held
  · exact changed.capacity ▸ fresh.inside
  · exact changed.used ▸ fresh.below

/-- Asking for a block, and the rest after it. If there is a block, it is fresh. -/
theorem Sound.take_bind {ε : Type} {size : Nat} {action : Action ε Arena Block}
    (sound : heap.Sound) (requests : Arena.Requests size action)
    {explain : Arena → ε → AllocError} {next : Block → HeapAction β}
    (rest : ∀ block arena, Sound { heap with arena } → Fresh { heap with arena } block →
      0 < size → block.len = size →
        Leaves writes { heap with arena } (next block)) :
    Leaves writes heap (onArena explain action >>= next) := by
  obtain ⟨separated, capacity, same⟩ := sound.requested size
  rcases run : action heap.arena with ⟨e | block, arena, events⟩
  -- A request that is refused may still have moved the offset, but no record.
  · have offset := sound.offset_request size
    have state := requests.error (congrArg Outcome.answer run)
    rw [run] at state
    rw [← state] at separated capacity same offset
    have failed : onArena explain action heap =
        ⟨.error (.refused (.outOfMemory (explain arena e))), { heap with arena }, events⟩ :=
      onArena_apply run
    unfold Leaves
    rw [Action.bind_apply_of_error failed]
    exact ⟨separated, capacity, fun _ => same _, (nomatch ·), fun _ => offset⟩
  · obtain ⟨given, changed⟩ := requests.ok (congrArg Outcome.answer run)
    rw [run] at changed
    obtain ⟨sound', inside, fresh, some, len⟩ := sound.given given rfl
    obtain ⟨filled, fresh'⟩ := sound'.fill writes fresh changed
    have taken : onArena explain action heap = ⟨.ok block, { heap with arena }, events⟩ :=
      onArena_apply run
    have first : Leaves writes heap (onArena explain action) := by
      unfold Leaves
      rw [taken]
      refine ⟨filled.separated, filled.capacity.trans capacity,
        fun none => (same _).trans (filled.same none),
        fun _ => ⟨filled.below sound'.below, .inr ?_⟩, (nomatch ·)⟩
      show arena.used ≤ arena.capacity
      rw [changed.used, changed.capacity]
      exact inside
    refine first.bind fun a after events' run' sound'' _ => ?_
    cases taken.symm.trans run'
    exact rest block arena sound'' fresh' some len

/-- A handle is pointed to a fresh block. -/
theorem Sound.settle (sound : heap.Sound) {handle : Handle} {placement : Placement}
    (fresh : heap.Fresh placement.block) (allowed : placement.kind.Allows placement.block.len)
    {handles : HandleTable Placement} (resolve : ∀ other, handles.resolve other =
      if other = handle then some placement else heap.handles.resolve other) :
    Sound { heap with handles } ∧
      ∀ {other}, other ≠ handle → Same other heap { heap with handles } := by
  obtain ⟨separated, same⟩ := sound.link resolve ⟨fresh.held, fresh.inside, allowed⟩
    fun _ known => fresh.apart known
  refine ⟨{ separated with below := ?_ }, same⟩
  intro other p known
  by_cases own : other = handle
  · cases own
    cases ((resolve _).trans (if_pos rfl)).symm.trans known
    exact fresh.below
  · exact sound.below (((resolve _).trans (if_neg own)).symm.trans known)

end Heap

end HandleHeap
