import HandleHeap.Proofs.Handle.Generations
import Mathlib.Data.List.Perm.Subperm
import Mathlib.Data.List.Nodup

/-!
# The accounts of a handle table

A table keeps its entries, its free list and the number of live handles apart. In every table that
comes from an empty one the three agree, so that issuing and ending a handle never fault.

* `Accounted`: the accounts agree. `Accounted.perform` keeps it.
* `register_of_free`, `register_of_full`, `register_of_room`: what issuing a handle does then.
* `invalidate_of_live`: what ending one does.
* `mem_toList_iff`, `sorted_toList`, `length_le_live`: the live handles, their order, and how many
  there are.
-/

namespace HandleHeap.HandleTable

variable {α : Type}

theorem toNat_ofNat {n : Nat} (small : n < 0x100000000) : (UInt32.ofNat n).toNat = n :=
  UInt32.toNat_ofNat_of_lt' small

/-! ## 1. The invariant -/

/-- The entries, the free list and the number of live handles agree. -/
structure Accounted (table : HandleTable α) : Prop where
  limit_lt : table.limit < 0x100000000
  size_le : table.entries.size ≤ table.limit
  live_eq : table.live = table.entries.toList.countP (·.address.isSome)
  nodup : table.free.Nodup
  free_iff : ∀ index, index ∈ table.free ↔
    ∃ generation, table.lookup index = some ⟨generation, none⟩

theorem accounted_empty (max : Option UInt32) : Accounted (empty (α := α) max) where
  limit_lt := by
    cases max with
    | none => exact (by decide : 0xfffffffe < 0x100000000)
    | some max => exact max.toNat_lt
  size_le := Nat.zero_le _
  live_eq := rfl
  nodup := List.nodup_nil
  free_iff index := by
    have unknown : (empty (α := α) max).lookup index = none := by
      unfold lookup
      split <;> rfl
    rw [unknown]
    constructor
    · exact fun member => absurd member List.not_mem_nil
    · rintro ⟨_, none⟩
      cases none

theorem accounted_withCapacity {size initial : Nat} {max : Option UInt32} {table : HandleTable α}
    (h : withCapacity size initial max = .ok table) : table.Accounted :=
  eq_of_withCapacity h ▸ accounted_empty max

/-! ## 2. One entry -/

theorem lookup_eq_some_iff {table : HandleTable α} {index : UInt32} {entry : TableEntry α} :
    table.lookup index = some entry ↔
      index ≠ 0 ∧ table.entries[index.toNat - 1]? = some entry := by
  unfold lookup
  split
  · next zero => simp [zero]
  · next nonzero => simp [nonzero]

theorem toNat_pos {index : UInt32} (nonzero : index ≠ 0) : 0 < index.toNat :=
  Nat.pos_of_ne_zero fun zero => nonzero (UInt32.toNat_inj.mp zero)

/-- The indices that have an entry. -/
theorem exists_lookup_iff {table : HandleTable α} {index : UInt32} :
    (∃ entry, table.lookup index = some entry) ↔
      0 < index.toNat ∧ index.toNat ≤ table.entries.size := by
  constructor
  · rintro ⟨entry, known⟩
    obtain ⟨nonzero, at_⟩ := lookup_eq_some_iff.mp known
    have pos := toNat_pos nonzero
    have inside := (Array.getElem?_eq_some_iff.mp at_).1
    exact ⟨pos, by omega⟩
  · rintro ⟨pos, inside⟩
    have nonzero : index ≠ 0 := by
      rintro rfl
      exact absurd pos (by decide)
    exact ⟨_, lookup_eq_some_iff.mpr ⟨nonzero, Array.getElem?_eq_getElem (by omega)⟩⟩

/-- Putting an element in place of another moves a count of elements by those two. -/
theorem countP_setIfInBounds {β : Type} {elements : Array β} {position : Nat} {old : β}
    (at_ : elements[position]? = some old) (new : β) (p : β → Bool) :
    (elements.setIfInBounds position new).toList.countP p + (if p old then 1 else 0) =
      elements.toList.countP p + if p new then 1 else 0 := by
  obtain ⟨inside, rfl⟩ := Array.getElem?_eq_some_iff.mp at_
  have inside' : position < elements.toList.length := by simpa using inside
  rw [Array.toList_setIfInBounds, List.countP_set inside']
  -- An element that satisfies `p` is counted, so the subtraction does not stop at zero.
  have counted : (if p elements.toList[position] then 1 else 0) ≤ elements.toList.countP p := by
    split
    · next holds => exact List.countP_pos_iff.mpr ⟨_, List.getElem_mem inside', holds⟩
    · exact Nat.zero_le _
  simp only [Array.getElem_toList] at counted ⊢
  omega

/-- Putting an entry in place of another moves the count of entries in use by those two. -/
theorem countP_setEntry {table : HandleTable α} {index : UInt32} {old : TableEntry α}
    (known : table.lookup index = some old) (entry : TableEntry α) (p : TableEntry α → Bool) :
    (table.setEntry index entry).entries.toList.countP p + (if p old then 1 else 0) =
      table.entries.toList.countP p + if p entry then 1 else 0 :=
  countP_setIfInBounds (lookup_eq_some_iff.mp known).2 entry p

theorem size_setEntry (table : HandleTable α) (index : UInt32) (entry : TableEntry α) :
    (table.setEntry index entry).entries.size = table.entries.size :=
  Array.size_setIfInBounds

/-! ## 3. Issuing a handle -/

theorem register_of_free {table : HandleTable α} (accounted : table.Accounted) {index : UInt32}
    {rest : List UInt32} (free : table.free = index :: rest) :
    ∃ generation, table.lookup index = some ⟨generation, none⟩ ∧ ∀ address,
      register address table = ⟨.ok ⟨index, generation⟩,
        { table.setEntry index ⟨generation, some address⟩ with
          free := rest, live := table.live + 1 }, []⟩ := by
  obtain ⟨generation, vacant⟩ := (accounted.free_iff index).mp (free ▸ List.mem_cons_self)
  refine ⟨generation, vacant, fun address => ?_⟩
  have vacant' : ({ table with free := rest } : HandleTable α).lookup index =
      some ⟨generation, none⟩ := vacant
  simp only [register, free, occupy, vacant']
  rfl

theorem register_of_full {table : HandleTable α} (none : table.free = [])
    (full : table.limit < table.entries.size + 1) (address : α) :
    register address table = ⟨.error (.refused .handleTableFull), table, []⟩ := by
  simp only [register, none, if_pos full]

/-- A table with a vacant entry more, whose index is the only free one. -/
def extended (table : HandleTable α) : HandleTable α :=
  { table with
    entries := table.entries.push ⟨0, none⟩
    free := [UInt32.ofNat (table.entries.size + 1)] }

theorem lookup_extended (table : HandleTable α) (index : UInt32) :
    table.extended.lookup index =
      if index.toNat = table.entries.size + 1 then some ⟨0, none⟩ else table.lookup index :=
  lookup_push index

theorem size_extended (table : HandleTable α) :
    table.extended.entries.size = table.entries.size + 1 := Array.size_push _

/-- With no index free, a new index is taken as if it had been free. -/
theorem register_of_room {table : HandleTable α} (none : table.free = [])
    (room : ¬ table.limit < table.entries.size + 1) (address : α) :
    register address table = register address table.extended := by
  obtain ⟨entries, free, live, limit⟩ := table
  cases none
  simp only [register, extended, if_neg room]

theorem accounted_extended {table : HandleTable α} (accounted : table.Accounted)
    (none : table.free = []) (room : ¬ table.limit < table.entries.size + 1) :
    table.extended.Accounted where
  limit_lt := accounted.limit_lt
  size_le := by
    rw [size_extended]
    exact Nat.le_of_not_lt room
  live_eq := by
    show table.live = (table.entries.push ⟨0, .none⟩).toList.countP _
    rw [Array.toList_push, List.countP_append, ← accounted.live_eq]
    rfl
  nodup := List.nodup_singleton _
  free_iff index := by
    have small := accounted.limit_lt
    have toNat : (UInt32.ofNat (table.entries.size + 1)).toNat = table.entries.size + 1 :=
      toNat_ofNat (by omega)
    have old := accounted.free_iff index
    rw [lookup_extended]
    show index ∈ [UInt32.ofNat (table.entries.size + 1)] ↔ _
    rw [List.mem_singleton, ← UInt32.toNat_inj, toNat]
    by_cases last : index.toNat = table.entries.size + 1
    · simp [last]
    · rw [if_neg last]
      rw [none] at old
      simpa [last] using old

theorem Accounted.register_free {table : HandleTable α} (accounted : table.Accounted)
    {index : UInt32} {rest : List UInt32} (free : table.free = index :: rest) (address : α) :
    (register address table).state.Accounted := by
  obtain ⟨generation, vacant, run⟩ := register_of_free accounted free
  have nodup := accounted.nodup
  rw [free, List.nodup_cons] at nodup
  rw [run]
  refine ⟨accounted.limit_lt, ?_, ?_, nodup.2, fun other => ?_⟩
  · exact (size_setEntry ..).trans_le accounted.size_le
  · have count := countP_setEntry vacant ⟨generation, some address⟩ (·.address.isSome)
    have live := accounted.live_eq
    simp only [Option.isSome_none, Bool.false_eq_true, if_false, Option.isSome_some, if_true,
      Nat.add_zero] at count
    show table.live + 1 = (table.setEntry index ⟨generation, some address⟩).entries.toList.countP _
    omega
  · have old := accounted.free_iff other
    rw [free, List.mem_cons] at old
    show other ∈ rest ↔
      ∃ found, (table.setEntry index ⟨generation, some address⟩).lookup other = some ⟨found, none⟩
    rw [lookup_setEntry vacant]
    by_cases same : other = index
    · simp [same, nodup.1]
    · simpa [same] using old

theorem Accounted.register {table : HandleTable α} (accounted : table.Accounted) (address : α) :
    (register address table).state.Accounted := by
  cases free : table.free with
  | cons index rest => exact accounted.register_free free address
  | nil =>
    by_cases full : table.limit < table.entries.size + 1
    · rw [register_of_full free full]
      exact accounted
    · rw [register_of_room free full]
      exact (accounted_extended accounted free full).register_free rfl address

/-- Where the accounts agree, only a full table issues no handle. -/
theorem Accounted.register_eq_error {table : HandleTable α} (accounted : table.Accounted)
    {address : α} {stop : Stop} (h : (HandleTable.register address table).answer = .error stop) :
    stop = .refused .handleTableFull := by
  have issued {start : HandleTable α} (accounted : start.Accounted) {index : UInt32}
      {rest : List UInt32} (free : start.free = index :: rest)
      (h : (HandleTable.register address start).answer = .error stop) :
      stop = .refused .handleTableFull := by
    obtain ⟨generation, -, run⟩ := register_of_free accounted free
    rw [run] at h
    cases h
  cases free : table.free with
  | cons index rest => exact issued accounted free h
  | nil =>
    by_cases full : table.limit < table.entries.size + 1
    · rw [register_of_full free full] at h
      exact (Except.error.inj h).symm
    · rw [register_of_room free full] at h
      exact issued (accounted_extended accounted free full) rfl h

/-- A handle is issued for an index that was not in use. -/
theorem Accounted.vacant_of_register {table : HandleTable α} (accounted : table.Accounted)
    {address : α} {handle : Handle}
    (h : (HandleTable.register address table).answer = .ok handle) :
    table.inUse handle.index = false := by
  cases free : table.free with
  | cons index rest =>
    obtain ⟨generation, vacant, run⟩ := register_of_free accounted free
    rw [run] at h
    cases h
    rw [inUse, vacant]
    rfl
  | nil =>
    by_cases full : table.limit < table.entries.size + 1
    · rw [register_of_full free full] at h
      cases h
    · obtain ⟨generation, -, run⟩ :=
        register_of_free (accounted_extended accounted free full) (rfl : _ = _ :: [])
      rw [register_of_room free full, run] at h
      cases h
      have small := accounted.limit_lt
      -- The index is the one after all that have an entry.
      have unknown : table.lookup (UInt32.ofNat (table.entries.size + 1)) = none := by
        refine Option.eq_none_iff_forall_ne_some.mpr fun entry known => ?_
        have inside := (exists_lookup_iff.mp ⟨entry, known⟩).2
        rw [toNat_ofNat (by omega)] at inside
        omega
      rw [inUse, unknown]
      rfl

/-- A handle that is refused leaves the table as it was. -/
theorem Accounted.register_error {table after : HandleTable α} (accounted : table.Accounted)
    {address : α} {stop : Stop} {events : List Event}
    (h : HandleTable.register address table = ⟨.error stop, after, events⟩) :
    stop = .refused .handleTableFull ∧ after = table := by
  refine ⟨accounted.register_eq_error (congrArg Outcome.answer h), ?_⟩
  cases free : table.free with
  | cons index rest =>
    obtain ⟨generation, -, run⟩ := register_of_free accounted free
    cases (run address).symm.trans h
  | nil =>
    by_cases full : table.limit < table.entries.size + 1
    · cases (register_of_full free full address).symm.trans h
      rfl
    · obtain ⟨generation, -, run⟩ :=
        register_of_free (accounted_extended accounted free full) (rfl : _ = _ :: [])
      cases ((register_of_room free full address).trans (run address)).symm.trans h

/-! ## 4. Moving and ending a record -/

/-- The table with the entry of a live handle ended. -/
def ended (table : HandleTable α) (handle : Handle) : HandleTable α :=
  { table.setEntry handle.index ⟨handle.generation + 1, none⟩ with
    free := handle.index :: table.free, live := table.live - 1 }

/-- A live handle is counted. -/
theorem Accounted.live_pos {table : HandleTable α} (accounted : table.Accounted) {handle : Handle}
    (live : table.isLive handle = true) : 0 < table.live := by
  obtain ⟨address, known⟩ := lookup_of_isLive live
  have member := Array.mem_of_getElem? (lookup_eq_some_iff.mp known).2
  rw [accounted.live_eq, List.countP_pos_iff]
  exact ⟨⟨handle.generation, some address⟩, Array.mem_toList_iff.mpr member, rfl⟩

theorem invalidate_of_live {table : HandleTable α} (accounted : table.Accounted) {handle : Handle}
    (live : table.isLive handle = true) :
    invalidate handle table = ⟨.ok true, table.ended handle, []⟩ := by
  have pos : table.live ≠ 0 := Nat.ne_of_gt (accounted.live_pos live)
  have pos' : (table.setEntry handle.index ⟨handle.generation + 1, none⟩).live ≠ 0 := pos
  simp only [invalidate, if_pos live, if_neg pos']
  rfl

theorem invalidate_of_dead {table : HandleTable α} {handle : Handle}
    (dead : table.isLive handle = false) :
    invalidate handle table = ⟨.ok false, table, []⟩ := by
  simp [invalidate, dead]

theorem Accounted.ended {table : HandleTable α} (accounted : table.Accounted) {handle : Handle}
    (live : table.isLive handle = true) : (table.ended handle).Accounted := by
  obtain ⟨address, known⟩ := lookup_of_isLive live
  have used : handle.index ∉ table.free := by
    rw [accounted.free_iff, known]
    simp
  refine ⟨accounted.limit_lt, ?_, ?_, List.nodup_cons.mpr ⟨used, accounted.nodup⟩, fun other => ?_⟩
  · exact (size_setEntry ..).trans_le accounted.size_le
  · have count := countP_setEntry known ⟨handle.generation + 1, none⟩ (·.address.isSome)
    have live := accounted.live_eq
    simp only [Option.isSome_none, Bool.false_eq_true, if_false, Option.isSome_some, if_true,
      Nat.add_zero] at count
    show table.live - 1 =
      (table.setEntry handle.index ⟨handle.generation + 1, none⟩).entries.toList.countP _
    omega
  · show other ∈ handle.index :: table.free ↔
      ∃ found, (table.setEntry handle.index ⟨handle.generation + 1, none⟩).lookup other =
        some ⟨found, none⟩
    rw [lookup_setEntry known, List.mem_cons, accounted.free_iff]
    by_cases same : other = handle.index <;> simp [same]

theorem Accounted.relocate {table : HandleTable α} (accounted : table.Accounted) (handle : Handle)
    (address : α) : (relocate handle address table).state.Accounted := by
  unfold HandleTable.relocate
  split
  · next live =>
    obtain ⟨old, known⟩ := lookup_of_isLive live
    refine ⟨accounted.limit_lt, ?_, ?_, accounted.nodup, fun other => ?_⟩
    · exact (size_setEntry ..).trans_le accounted.size_le
    · have count := countP_setEntry known ⟨handle.generation, some address⟩ (·.address.isSome)
      have live := accounted.live_eq
      simp only [Option.isSome_some, if_true] at count
      show table.live =
        (table.setEntry handle.index ⟨handle.generation, some address⟩).entries.toList.countP _
      omega
    · rw [lookup_setEntry known]
      refine (accounted.free_iff other).trans ?_
      by_cases same : other = handle.index
      · simp [same, known]
      · simp [same]
  · exact accounted

theorem mem_invalidateAll_free {table : HandleTable α} (accounted : table.Accounted)
    (index : UInt32) : index ∈ table.invalidateAll.free ↔
      0 < index.toNat ∧ index.toNat ≤ table.entries.size := by
  have small := accounted.limit_lt
  have size := accounted.size_le
  simp only [invalidateAll, List.mem_map, List.mem_range'_1]
  constructor
  · rintro ⟨n, ⟨low, high⟩, rfl⟩
    rw [toNat_ofNat (by omega)]
    omega
  · rintro ⟨pos, inside⟩
    exact ⟨index.toNat, by omega, UInt32.ofNat_toNat⟩

theorem Accounted.invalidateAll {table : HandleTable α} (accounted : table.Accounted) :
    table.invalidateAll.Accounted where
  limit_lt := accounted.limit_lt
  size_le := by
    show (table.entries.map TableEntry.ended).size ≤ table.limit
    rw [Array.size_map]
    exact accounted.size_le
  live_eq := by
    show 0 = (table.entries.map TableEntry.ended).toList.countP _
    rw [Array.toList_map, List.countP_map]
    refine (List.countP_eq_zero.mpr fun entry _ => ?_).symm
    obtain ⟨generation, _ | address⟩ := entry <;> simp [TableEntry.ended]
  nodup := by
    have small := accounted.limit_lt
    have size := accounted.size_le
    refine List.Nodup.map_on (fun a low b low' same => ?_) (List.nodup_range' 1)
    rw [List.mem_range'_1] at low low'
    have same := congrArg UInt32.toNat same
    rwa [toNat_ofNat (by omega), toNat_ofNat (by omega)] at same
  free_iff index := by
    rw [mem_invalidateAll_free accounted, ← exists_lookup_iff, lookup_invalidateAll]
    rcases table.lookup index with _ | ⟨generation, _ | address⟩ <;> simp [TableEntry.ended]

/-- Every operation keeps the accounts. -/
theorem Accounted.perform {table : HandleTable α} (accounted : table.Accounted)
    (operation : TableOperation α) : (table.perform operation).Accounted := by
  cases operation with
  | register address => exact accounted.register address
  | relocate handle address => exact accounted.relocate handle address
  | invalidate handle =>
    show (invalidate handle table).state.Accounted
    cases live : table.isLive handle with
    | true =>
      rw [invalidate_of_live accounted live]
      exact accounted.ended live
    | false =>
      rw [invalidate_of_dead live]
      exact accounted
  | invalidateAll => exact accounted.invalidateAll

theorem Accounted.run {table : HandleTable α} (accounted : table.Accounted)
    (operations : List (TableOperation α)) : (table.run operations).Accounted := by
  induction operations generalizing table with
  | nil => exact accounted
  | cons operation rest ih => exact ih (accounted.perform operation)

/-! ## 5. The live handles -/

/-- Counting live handles by what they stand for is counting entries. -/
theorem countP_toList (table : HandleTable α) (p : α → Bool) :
    table.toList.countP (fun entry => p entry.2) =
      table.entries.toList.countP (fun entry => entry.address.any p) := by
  have entries := List.zipIdx_map_fst 0 table.entries.toList
  rw [toList, List.countP_filterMap]
  nth_rewrite 2 [← entries]
  rw [List.countP_map]
  refine List.countP_congr fun entry _ => ?_
  obtain ⟨⟨generation, _ | address⟩, position⟩ := entry <;> simp

theorem length_toList (table : HandleTable α) :
    table.toList.length = table.entries.toList.countP (·.address.isSome) := by
  have count := table.countP_toList fun _ => true
  rw [List.countP_true] at count
  rw [count]
  refine List.countP_congr fun entry _ => ?_
  obtain ⟨generation, _ | address⟩ := entry <;> simp

theorem mem_toList_iff {table : HandleTable α} (accounted : table.Accounted) {handle : Handle}
    {address : α} : (handle, address) ∈ table.toList ↔ table.resolve handle = some address := by
  have small := accounted.limit_lt
  have size := accounted.size_le
  rw [resolve_eq_some_iff, lookup_eq_some_iff, toList, List.mem_filterMap]
  constructor
  · rintro ⟨⟨⟨generation, known⟩, position⟩, member, found⟩
    rw [List.mem_zipIdx_iff_getElem?, Array.getElem?_toList] at member
    cases known with
    | none => cases found
    | some known =>
      cases found
      have inside := (Array.getElem?_eq_some_iff.mp member).1
      have toNat : (UInt32.ofNat (position + 1)).toNat = position + 1 :=
        toNat_ofNat (by omega)
      refine ⟨fun zero => ?_, ?_⟩
      · have zero := congrArg UInt32.toNat zero
        rw [toNat] at zero
        cases zero
      · rw [toNat]
        exact member
  · rintro ⟨nonzero, at_⟩
    have pos := toNat_pos nonzero
    refine ⟨(⟨handle.generation, some address⟩, handle.index.toNat - 1), ?_, ?_⟩
    · rw [List.mem_zipIdx_iff_getElem?, Array.getElem?_toList]
      exact at_
    · have index : handle.index.toNat - 1 + 1 = handle.index.toNat := by omega
      simp only [index, UInt32.ofNat_toNat, Option.map_some]

/-- The live handles are listed by index. -/
theorem sorted_toList {table : HandleTable α} (accounted : table.Accounted) :
    table.toList.Pairwise fun a b => a.1.index.toNat < b.1.index.toNat := by
  have small := accounted.limit_lt
  have size := accounted.size_le
  have positions : (table.entries.toList.zipIdx.map Prod.snd).Pairwise (· < ·) := by
    rw [List.zipIdx_map_snd]
    exact List.pairwise_lt_range'
  rw [toList, List.pairwise_filterMap]
  refine (List.pairwise_map.mp positions).imp_of_mem fun {a b} memberA memberB before => ?_
  obtain ⟨⟨generation, address⟩, position⟩ := a
  obtain ⟨⟨generation', address'⟩, position'⟩ := b
  have inside := (List.getElem?_eq_some_iff.mp (List.mem_zipIdx_iff_getElem?.mp memberA)).1
  have inside' := (List.getElem?_eq_some_iff.mp (List.mem_zipIdx_iff_getElem?.mp memberB)).1
  rw [Array.length_toList] at inside inside'
  cases address with
  | none => simp
  | some address =>
    cases address' with
    | none => simp
    | some address' =>
      intro entry found entry' found'
      cases found
      cases found'
      -- The order of positions is that of indices, since all of them fit into 32 bits.
      show (UInt32.ofNat (position + 1)).toNat < (UInt32.ofNat (position' + 1)).toNat
      rw [toNat_ofNat (by omega), toNat_ofNat (by omega)]
      exact Nat.succ_lt_succ before

theorem nodup_toList {table : HandleTable α} (accounted : table.Accounted) :
    (table.toList.map Prod.fst).Nodup := by
  refine List.pairwise_map.mpr ((sorted_toList accounted).imp fun before same => ?_)
  rw [same] at before
  exact absurd before (Nat.lt_irrefl _)

/-- No more handles are live than are counted. -/
theorem length_le_live {table : HandleTable α} (accounted : table.Accounted)
    {handles : List Handle} (nodup : handles.Nodup)
    (live : ∀ handle ∈ handles, table.isLive handle = true) : handles.length ≤ table.live := by
  have listed : handles ⊆ table.toList.map Prod.fst := by
    intro handle member
    obtain ⟨address, known⟩ := isLive_iff.mp (live handle member)
    exact List.mem_map.mpr ⟨_, (mem_toList_iff accounted).mpr known, rfl⟩
  calc handles.length
    _ ≤ (table.toList.map Prod.fst).length := (nodup.subperm listed).length_le
    _ = table.toList.length := List.length_map _
    _ = table.live := by rw [length_toList, accounted.live_eq]

/-- Tables with the same live handles count the same. -/
theorem live_eq_of_isLive {a b : HandleTable α} (accounted : a.Accounted) (accounted' : b.Accounted)
    (same : ∀ handle, a.isLive handle = b.isLive handle) : a.live = b.live := by
  have count {table : HandleTable α} (accounted : table.Accounted) :
      table.live = (table.toList.map Prod.fst).length := by
    rw [accounted.live_eq, List.length_map, length_toList]
  have listed {table : HandleTable α} (accounted : table.Accounted) (handle : Handle) :
      handle ∈ table.toList.map Prod.fst ↔ table.isLive handle = true := by
    rw [isLive_iff, List.mem_map]
    constructor
    · rintro ⟨⟨_, address⟩, member, rfl⟩
      exact ⟨address, (mem_toList_iff accounted).mp member⟩
    · rintro ⟨address, known⟩
      exact ⟨_, (mem_toList_iff accounted).mpr known, rfl⟩
  rw [count accounted, count accounted']
  refine ((List.perm_ext_iff_of_nodup (nodup_toList accounted) (nodup_toList accounted')).mpr
    fun handle => ?_).length_eq
  rw [listed accounted, listed accounted', same]

end HandleHeap.HandleTable
