import HandleHeap.Proofs.Handle.Balance
import HandleHeap.Proofs.Heap.Invariants

/-!
# The statistics of a heap

What a snapshot of a heap counts, told of its handles. The counts are taken from the listing of
the handle table and from the table's own accounts, and both say the same in every heap that a
session reaches.

* `Counted`: the counts of a snapshot are numbers of handles, and they add up.
* `accounts_of_reached`: no index of a table is lost, in any run of a table and in any session of
  a heap.
-/

namespace HandleHeap.Heap

open HandleHeap.HandleTable

/-! ## 1. Counts of a snapshot -/

/-- The counts of a snapshot are numbers of handles, and they add up. -/
structure Counted (heap : Heap) : Prop where
  kinds : heap.stats.liveHandles =
    heap.stats.records.objects + heap.stats.records.shapes + heap.stats.records.propertyArrays +
      heap.stats.records.elementArrays
  sum : heap.stats.liveHandles + heap.stats.freeHandles = heap.stats.handleCapacity
  live : heap.stats.liveHandles = {handle | heap.isLive handle = true}.ncard
  pinned : heap.stats.pinned =
    {handle | heap.isLive handle = true ∧ heap.isPinned handle = true}.ncard
  kind : ∀ kind, heap.countKind kind = {handle | heap.kind? handle = some kind}.ncard

/-- Every record is of one of the four kinds. -/
theorem length_eq_kinds (entries : List (Handle × Placement)) :
    entries.length =
      entries.countP (fun entry => entry.2.kind = .object) +
        entries.countP (fun entry => entry.2.kind = .shape) +
        entries.countP (fun entry => entry.2.kind = .propertyArray) +
        entries.countP (fun entry => entry.2.kind = .elementArray) := by
  induction entries with
  | nil => rfl
  | cons entry rest ih =>
    obtain ⟨handle, block, kind, pinned⟩ := entry
    simp only [List.length_cons, List.countP_cons, ih]
    cases kind <;> simp <;> omega

theorem counted_of_accounted {heap : Heap} (accounted : heap.handles.Accounted) :
    heap.Counted where
  kinds := (accounted.live_eq.trans heap.handles.length_toList.symm).trans
    (length_eq_kinds heap.handles.toList)
  sum := accounted.live_add_free
  live := by
    have all := accounted.countP_eq_ncard fun _ => true
    rw [List.countP_true, length_toList, ← accounted.live_eq] at all
    refine all.trans (congrArg Set.ncard (Set.ext fun handle => ?_))
    show (heap.handles.resolve handle).any _ = true ↔ (heap.handles.resolve handle).isSome = true
    cases heap.handles.resolve handle <;> simp
  pinned := by
    refine (accounted.countP_eq_ncard Placement.pinned).trans
      (congrArg Set.ncard (Set.ext fun handle => ?_))
    show (heap.handles.resolve handle).any _ = true ↔
      (heap.handles.resolve handle).isSome = true ∧ (heap.handles.resolve handle).any _ = true
    cases heap.handles.resolve handle <;> simp
  kind kind := by
    refine (accounted.countP_eq_ncard fun placement => placement.kind = kind).trans
      (congrArg Set.ncard (Set.ext fun handle => ?_))
    show (heap.handles.resolve handle).any _ = true ↔
      (heap.handles.resolve handle).map Placement.kind = some kind
    cases heap.handles.resolve handle <;> simp

/-! ## 2. Tables and sessions -/

/-- The most handles that a table made with `max` may have live at once. -/
def handleLimit (max : Option UInt32) : Nat := (max.map UInt32.toNat).getD 0xfffffffe

/-- No index is lost, in any run of a table and in any session of a heap: the free list holds the
indices that are not in use, each once, a handle is issued as long as fewer are live than may be,
and the statistics add up. -/
theorem accounts_of_reached :
    (∀ {α : Type} {entrySize initial : Nat} {max : Option UInt32} {table : HandleTable α},
      withCapacity entrySize initial max = .ok table →
        ∀ operations, (table.run operations).Balanced (handleLimit max)) ∧
      ∀ {config : Config} {requested : Nat} {heap : Heap}, Reached config requested heap →
        heap.handles.Balanced (handleLimit config.maxHandles) ∧ heap.Counted := by
  refine ⟨fun {α entrySize initial max table} made operations => ?_,
    fun {config requested heap} reached => ?_⟩
  · have limit : (table.run operations).limit = handleLimit max := by
      rw [eq_of_withCapacity made]
      exact limit_run _ operations
    rw [← limit]
    exact ((accounted_withCapacity made).run operations).balanced
  · have accounted := accounted_of_reached reached
    have limit : heap.handles.limit = handleLimit config.maxHandles :=
      (set_up_of_reached reached).limit
    rw [← limit]
    exact ⟨accounted.balanced, counted_of_accounted accounted⟩

/-- A table for two handles that issued one index twice refuses a third handle. A session with an
object that is pinned and elements that are ended shows one pinned handle and a free one. -/
theorem accounts_small :
    let table : HandleTable Nat := empty (some 2)
    let full := table.run [.register 10, .register 20, .invalidate ⟨1, 0⟩, .register 30]
    let session := smallSession ++ [.pin ⟨2, 0⟩, .invalidate ⟨4, 0⟩]
    let heap := newSmall.run session
    withCapacity 40 0 (some 2) = .ok table ∧
      register 50 full = ⟨.error (.refused .handleTableFull), full, []⟩ ∧
      Reached { arenaCapacity := 1024 } (runCounting 0 newSmall session).1 heap ∧
      heap.stats.liveHandles + 1 = heap.stats.handleCapacity ∧
      {handle | heap.isLive handle = true ∧ heap.isPinned handle = true}.ncard = 1 := by
  intro table full session heap
  have made : withCapacity 40 0 (some 2) = .ok table := by rfl
  have reached : Reached { arenaCapacity := 1024 } (runCounting 0 newSmall session).1 heap :=
    reached_run (.new new_small) session
  have balanced := accounts_of_reached.1 made
    [.register 10, .register 20, .invalidate ⟨1, 0⟩, .register 30]
  obtain ⟨-, counted⟩ := accounts_of_reached.2 reached
  have one : heap.stats.freeHandles = 1 := by decide +kernel
  have pinned : heap.stats.pinned = 1 := by decide +kernel
  exact ⟨made, balanced.full 50 (by decide), reached, one ▸ counted.sum, counted.pinned ▸ pinned⟩

end HandleHeap.Heap
