import HandleHeap.Proofs.Heap.Reachable

/-!
# The blocks of records

Every record is in a block that the arena handed out since it was last rewound. So what is true of
each block when it is handed out, and of no block less for what is asked of the arena or stored in
it later, is true of the blocks of all records. Nothing is supposed of how far requests have moved
the offset: records may overlap.

* `Arena.Lasting`: a property of blocks of that sort.
* `blocksAre_of_reached`: in a heap that a session reaches, the blocks of all records have it.
-/

namespace HandleHeap

open HandleHeap.Action

/-- A property that a block has when it is handed out, and keeps until the arena is rewound. -/
class Arena.Lasting (good : Arena → Block → Prop) : Prop where
  given : ∀ {arena : Arena} {size : Nat} {block : Block}, arena.Regular →
    (Arena.allocate size arena).answer = .ok block → good (Arena.allocate size arena).state block
  request : ∀ {arena : Arena} {block : Block} (size : Nat), good arena block →
    good (Arena.allocate size arena).state block
  content : ∀ {before after : Arena} {changed block : Block}, Arena.OnlyIn changed before after →
    good before block → good after block

namespace Heap

variable {good : Arena → Block → Prop} {heap : Heap} {α β : Type}

/-! ## 1. Parts of an operation -/

/-- The block of every record has a property. -/
structure BlocksAre (good : Arena → Block → Prop) (heap : Heap) : Prop where
  regular : heap.arena.Regular
  block : ∀ {handle placement}, heap.handles.resolve handle = some placement →
    good heap.arena placement.block

/-- The rest keeps the property that the first part leaves. -/
theorem blocksAre_bind {action : HeapAction α} {next : α → HeapAction β}
    (first : (action heap).state.BlocksAre good)
    (rest : ∀ a, (action heap).answer = .ok a →
      (next a (action heap).state).state.BlocksAre good) :
    ((action >>= next) heap).state.BlocksAre good := by
  rcases run : action heap with ⟨stop | a, after, events⟩ <;> rw [run] at first rest
  · rw [bind_apply_of_error run]
    exact first
  · rw [bind_apply_of_ok run]
    exact rest a rfl

/-- A heap without records. -/
theorem blocksAre_of_dead (dead : ∀ handle, heap.handles.resolve handle = none)
    (regular : heap.arena.Regular) : heap.BlocksAre good :=
  ⟨regular, fun known => nomatch (dead _).symm.trans known⟩

/-- A table that has nothing but what another has, and one placement whose block is good. -/
theorem BlocksAre.settle (are : heap.BlocksAre good) {handles : HandleTable Placement}
    {handle : Handle} {placement : Placement} (start : good heap.arena placement.block)
    (resolve : ∀ other, handles.resolve other =
      if other = handle then some placement else heap.handles.resolve other) :
    BlocksAre good { heap with handles } := by
  refine ⟨are.regular, fun {other found} known => ?_⟩
  have known : handles.resolve other = some found := known
  rw [resolve] at known
  split at known
  · cases known
    exact start
  · exact are.block known

theorem BlocksAre.register (are : heap.BlocksAre good) {block : Block} (kind : RecordKind)
    (start : good heap.arena block) :
    (onTable (HandleTable.register ⟨block, kind, false⟩) heap).state.BlocksAre good := by
  rcases run : HandleTable.register ⟨block, kind, false⟩ heap.handles with
    ⟨stop | handle, table, events⟩ <;> rw [onTable_apply run]
  · exact ⟨are.regular, fun known =>
      are.block ((HandleTable.resolve_register_error run _).symm.trans known)⟩
  · exact are.settle start (HandleTable.resolve_register run).2

theorem BlocksAre.retarget (are : heap.BlocksAre good) {handle : Handle} {old : Placement}
    (known : heap.handles.resolve handle = some old) (placement : Placement)
    (start : good heap.arena placement.block) :
    (onTable (HandleTable.relocate handle placement) heap).state.BlocksAre good :=
  are.settle start (HandleTable.resolve_relocate (HandleTable.isLive_iff.mpr ⟨old, known⟩) _)

variable [Arena.Lasting good]

theorem BlocksAre.asked (are : heap.BlocksAre good) (size : Nat) :
    BlocksAre good { heap with arena := (Arena.allocate size heap.arena).state } :=
  ⟨are.regular.allocate size, fun known => Arena.Lasting.request size (are.block known)⟩

theorem BlocksAre.changed (are : heap.BlocksAre good) {block : Block} {arena : Arena}
    (changed : Arena.OnlyIn block heap.arena arena) : BlocksAre good { heap with arena } :=
  ⟨are.regular.onlyIn changed, fun known => Arena.Lasting.content changed (are.block known)⟩

theorem BlocksAre.changeArena (are : heap.BlocksAre good) {change : Arena → α × Arena}
    {block : Block} (changed : ∀ arena, Arena.OnlyIn block arena (change arena).2) :
    (changeArena change heap).state.BlocksAre good :=
  are.changed (changed heap.arena)

/-- A block that is asked for is good when it is given. -/
theorem BlocksAre.request (are : heap.BlocksAre good) {ε : Type} {size : Nat}
    {action : Action ε Arena Block} (requests : Arena.Requests size action)
    (explain : Arena → ε → AllocError) :
    (onArena explain action heap).state.BlocksAre good ∧
      ∀ fresh, (onArena explain action heap).answer = .ok fresh →
        good (onArena explain action heap).state.arena fresh := by
  have asked := are.asked size
  rcases run : action heap.arena with ⟨e | fresh, arena, events⟩ <;> rw [onArena_apply run]
  · have same := requests.error (congrArg Outcome.answer run)
    rw [run] at same
    have same : arena = _ := same
    exact ⟨same ▸ asked, fun _ none => nomatch none⟩
  · obtain ⟨given, changed⟩ := requests.ok (congrArg Outcome.answer run)
    rw [run] at changed
    refine ⟨asked.changed changed, fun block same => ?_⟩
    cases Except.ok.inj same
    exact Arena.Lasting.content changed (Arena.Lasting.given are.regular given)

/-! ## 2. Operations -/

/-- The blocks of records have a property after, if they had it before. -/
def KeepsBlocks (good : Arena → Block → Prop) (before after : Heap) : Prop :=
  before.BlocksAre good → after.BlocksAre good

omit [Arena.Lasting good] in
instance : Chained (KeepsBlocks good) where
  refl _ := id
  trans first second := second ∘ first

instance : KeptByArena (KeepsBlocks good) where
  request _ size are := are.asked size
  content _ _ _ changed are := are.changed changed

instance : KeptByBuckets (KeepsBlocks good) where
  buckets _ _ _ are := ⟨are.regular, are.block⟩

instance : KeptByRoots (KeepsBlocks good) where
  roots _ _ are := ⟨are.regular, are.block⟩

theorem keepsBlocks_allocRecord (kind : RecordKind) (size : Nat) :
    (allocRecord kind size).Keeps (KeepsBlocks good) := by
  refine ⟨fun heap are => ?_⟩
  obtain ⟨asked, start⟩ := are.request (Arena.requests_allocate size) fun _ e => e
  refine blocksAre_bind asked fun block given => ?_
  have clears (arena : Arena) : Arena.OnlyIn block arena (arena.clear block) :=
    Arena.onlyIn_clear arena block
  have cleared : (Heap.changeArena (fun arena => ((), arena.clear block)) _).state.BlocksAre good :=
    asked.changeArena clears
  refine blocksAre_bind cleared fun _ _ => ?_
  have registered := cleared.register kind (Arena.Lasting.content (clears _) (start block given))
  exact blocksAre_bind registered fun _ _ => registered

theorem keepsBlocks_growRecord (handle : Handle) (kind : RecordKind) (size : Nat) :
    (growRecord handle kind size).Keeps (KeepsBlocks good) := by
  refine ⟨fun heap are => ?_⟩
  refine blocksAre_bind are fun old _ => ?_
  obtain ⟨asked, start⟩ := are.request (Arena.requests_reallocate old size)
    fun arena _ => .exhausted size arena.used arena.capacity
  refine blocksAre_bind asked fun fresh given => blocksAre_bind asked fun placement found => ?_
  have moved := asked.retarget (placement_eq_ok found) { placement with block := fresh }
    (start fresh given)
  exact blocksAre_bind moved fun _ _ => moved

theorem keepsBlocks_relocate (handle : Handle) :
    (relocate handle).Keeps (KeepsBlocks good) := by
  refine ⟨fun heap are => ?_⟩
  refine blocksAre_bind are fun placement found => ?_
  split
  · exact are
  · obtain ⟨asked, start⟩ := are.request (Arena.requests_allocate placement.block.len)
      fun _ e => e
    refine blocksAre_bind asked fun fresh given => ?_
    have copies (arena : Arena) : Arena.OnlyIn fresh arena
        (arena.copy placement.block fresh placement.block.len).2 :=
      Arena.onlyIn_copy arena placement.block fresh placement.block.len
    have copied := asked.changeArena copies
    refine blocksAre_bind copied fun count _ => ?_
    cases count with
    | none => exact copied
    | some _ =>
      -- Asking for a block and copying left the table as it was.
      have moved := copied.retarget (placement_eq_ok found) { placement with block := fresh }
        (Arena.Lasting.content (copies _) (start fresh given))
      exact blocksAre_bind moved fun _ _ => moved

omit [Arena.Lasting good] in
theorem keepsBlocks_setPinned (handle : Handle) (pinned : Bool) :
    (setPinned handle pinned).Keeps (KeepsBlocks good) := by
  refine ⟨fun heap are => blocksAre_bind are fun placement found => ?_⟩
  have known := placement_eq_ok found
  have start := are.block known
  exact are.retarget known { placement with pinned } start

omit [Arena.Lasting good] in
theorem keepsBlocks_end (handle : Handle) :
    (onTable (HandleTable.invalidate handle)).Keeps (KeepsBlocks good) := by
  refine ⟨fun heap are => ⟨are.regular, fun {other placement} known => ?_⟩⟩
  have known : (HandleTable.invalidate handle heap.handles).state.resolve other =
      some placement := known
  rw [HandleTable.resolve_invalidate] at known
  split at known
  · cases known
  · exact are.block known

instance : KeptByPlacing (KeepsBlocks good) where
  allocRecord := keepsBlocks_allocRecord
  growRecord := keepsBlocks_growRecord
  relocate := keepsBlocks_relocate
  setPinned := keepsBlocks_setPinned
  ends := keepsBlocks_end

theorem BlocksAre.perform (are : heap.BlocksAre good) (operation : Operation Handle) :
    (operation.perform heap).state.BlocksAre good := by
  cases rewinds : operation.rewinds with
  | false =>
    have keeps : operation.perform.Keeps (KeepsBlocks good) := operation.keeps_perform_of rewinds
      (fun _ => inferInstance) (fun _ => inferInstance) fun _ => inferInstance
    exact keeps.step heap are
  | true =>
    have dead (handle : Handle) : heap.endAll.handles.resolve handle = none :=
      HandleTable.resolve_invalidateAll heap.handles handle
    cases operation with
    | reset =>
      exact blocksAre_of_dead dead (Arena.Regular.reset (ε := AllocError) are.regular)
    | teardown =>
      rw [state_teardown]
      exact blocksAre_of_dead dead are.regular.teardown
    | _ => cases rewinds

/-- The blocks of all records have a property that lasts. -/
theorem blocksAre_of_reached {config : Config} {requested : Nat}
    (reached : Reached config requested heap) : heap.BlocksAre good := by
  induction reached with
  | new made =>
    obtain ⟨arena, table, -⟩ := new_eq_ok made
    exact blocksAre_of_dead (HandleTable.resolve_withCapacity table) (Arena.regular_new arena)
  | perform _ operation are => exact are.perform operation

end Heap

end HandleHeap
