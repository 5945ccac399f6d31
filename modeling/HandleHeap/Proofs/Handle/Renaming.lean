import HandleHeap.Proofs.Handle.Accounting

/-!
# Handle tables that differ in addresses or in generations

What a table answers does not depend on what its handles stand for, and depends on generations only
through the handles it issues.

* `HandleTable.map`: the table with its addresses told otherwise. `map_register`, `map_relocate` and
  `map_invalidate` say that the operations do the same to it.
* `Handle.shift`: the handle with its generation moved by an offset of its index.
* `Corresponds`: two tables with the same indices in use for the same addresses, the generations of
  the one moved by an offset. It may have indices more, which are the last to be issued.
  `Corresponds.register`, `Corresponds.invalidate` and the others: they stay so, and answer the same.
-/

namespace HandleHeap

/-! ## 1. Addresses told otherwise -/

section Map

variable {α β : Type}

def TableEntry.map (f : α → β) (entry : TableEntry α) : TableEntry β :=
  ⟨entry.generation, entry.address.map f⟩

namespace HandleTable

/-- The same table with its addresses told otherwise. -/
def map (f : α → β) (table : HandleTable α) : HandleTable β :=
  ⟨table.entries.map (TableEntry.map f), table.free, table.live, table.limit⟩

variable (f : α → β) (table : HandleTable α)

theorem map_empty (max : Option UInt32) : (empty max).map f = empty max := by
  simp [map, empty]

@[simp]
theorem lookup_map (index : UInt32) :
    (table.map f).lookup index = (table.lookup index).map (TableEntry.map f) := by
  unfold lookup
  split
  · rfl
  · exact Array.getElem?_map

@[simp]
theorem resolve_map (handle : Handle) :
    (table.map f).resolve handle = (table.resolve handle).map f := by
  simp only [resolve, lookup_map, Option.bind_eq_bind]
  cases table.lookup handle.index with
  | none => rfl
  | some entry => by_cases same : entry.generation = handle.generation <;> simp [TableEntry.map, same]

@[simp]
theorem isLive_map (handle : Handle) : (table.map f).isLive handle = table.isLive handle := by
  simp [isLive]

theorem map_setEntry (index : UInt32) (entry : TableEntry α) :
    (table.setEntry index entry).map f = (table.map f).setEntry index (entry.map f) := by
  simp [setEntry, map, Array.map_setIfInBounds]

theorem map_occupy (index : UInt32) (address : α) :
    occupy index (f address) (table.map f) =
      ⟨(occupy index address table).answer, (occupy index address table).state.map f,
        (occupy index address table).events⟩ := by
  unfold occupy
  rw [lookup_map]
  rcases table.lookup index with _ | ⟨generation, _ | known⟩
  · rfl
  · have set := map_setEntry f table index ⟨generation, some address⟩
    simp only [Option.map_some, TableEntry.map, Option.map_none] at set ⊢
    rw [← set]
    rfl
  · rfl

theorem map_register (address : α) :
    register (f address) (table.map f) =
      ⟨(register address table).answer, (register address table).state.map f,
        (register address table).events⟩ := by
  obtain ⟨entries, free, live, limit⟩ := table
  cases free with
  | cons index rest => exact map_occupy f ⟨entries, rest, live, limit⟩ index address
  | nil =>
    have push : (entries.push ⟨0, none⟩).map (TableEntry.map f) =
        (entries.map (TableEntry.map f)).push ⟨0, none⟩ := Array.map_push
    have occupied := map_occupy f ⟨entries.push ⟨0, none⟩, [], live, limit⟩
      (UInt32.ofNat (entries.size + 1)) address
    simp only [map, push] at occupied
    simp only [register, map, Array.size_map]
    split
    · rfl
    · exact occupied

theorem map_relocate (handle : Handle) (address : α) :
    relocate handle (f address) (table.map f) =
      ⟨(relocate handle address table).answer, (relocate handle address table).state.map f,
        (relocate handle address table).events⟩ := by
  unfold relocate
  rw [isLive_map]
  split
  · rw [map_setEntry]
    rfl
  · rfl

theorem map_invalidate (handle : Handle) :
    invalidate handle (table.map f) =
      ⟨(invalidate handle table).answer, (invalidate handle table).state.map f,
        (invalidate handle table).events⟩ := by
  have set : (table.setEntry handle.index ⟨handle.generation + 1, none⟩).map f =
      (table.map f).setEntry handle.index ⟨handle.generation + 1, none⟩ := map_setEntry ..
  unfold invalidate
  rw [isLive_map]
  split
  · rw [← set]
    show (if table.live = 0 then _ else _) = _
    by_cases zero : table.live = 0
    · simp [setEntry, map, zero]
    · simp [setEntry, map, zero]
  · rfl

theorem map_invalidateAll : table.invalidateAll.map f = (table.map f).invalidateAll := by
  simp only [invalidateAll, map, Array.map_map, Array.size_map]
  congr 2
  funext entry
  obtain ⟨generation, _ | address⟩ := entry <;> rfl

theorem nextGeneration_map : (table.map f).nextGeneration = table.nextGeneration := by
  funext index
  rw [nextGeneration, nextGeneration, lookup_map]
  rcases table.lookup index with _ | ⟨generation, _ | address⟩ <;> rfl

/-- The accounts do not depend on what the handles stand for. -/
theorem accounted_map : (table.map f).Accounted ↔ table.Accounted := by
  have size : (table.map f).entries.size = table.entries.size := Array.size_map
  have live : (table.map f).entries.toList.countP (·.address.isSome) =
      table.entries.toList.countP (·.address.isSome) := by
    show (table.entries.map (TableEntry.map f)).toList.countP _ = _
    rw [Array.toList_map, List.countP_map]
    refine List.countP_congr fun entry _ => ?_
    obtain ⟨generation, _ | address⟩ := entry <;> simp [TableEntry.map]
  have vacant (index : UInt32) :
      (∃ generation, (table.map f).lookup index = some ⟨generation, none⟩) ↔
        ∃ generation, table.lookup index = some ⟨generation, none⟩ := by
    rw [lookup_map]
    cases table.lookup index with
    | none => simp
    | some entry => obtain ⟨generation, _ | address⟩ := entry <;> simp [TableEntry.map]
  constructor <;> intro h
  · exact ⟨h.limit_lt, size ▸ h.size_le, h.live_eq.trans live, h.nodup, fun index =>
      (h.free_iff index).trans (vacant index)⟩
  · exact ⟨h.limit_lt, size.symm ▸ h.size_le, h.live_eq.trans live.symm, h.nodup, fun index =>
      (h.free_iff index).trans (vacant index).symm⟩

end HandleTable

end Map

/-! ## 2. Generations moved -/

namespace Handle

variable {offset : UInt32 → UInt32}

/-- The handle with its generation moved by the offset of its index. -/
def shift (offset : UInt32 → UInt32) (handle : Handle) : Handle :=
  ⟨handle.index, handle.generation + offset handle.index⟩

theorem shift_injective (offset : UInt32 → UInt32) : Function.Injective (shift offset) := by
  rintro ⟨index, generation⟩ ⟨index', generation'⟩ same
  simp only [shift, mk.injEq] at same
  obtain ⟨rfl, same⟩ := same
  rw [(UInt32.add_left_inj _).mp same]

@[simp]
theorem shift_inj {a b : Handle} : a.shift offset = b.shift offset ↔ a = b :=
  (shift_injective offset).eq_iff

@[simp]
theorem isNull_shift (handle : Handle) : (handle.shift offset).isNull = handle.isNull := rfl

theorem shift_null (fixed : offset 0 = 0) : null.shift offset = null := by
  simp [shift, null, fixed]

@[simp]
theorem shift_zero (handle : Handle) : handle.shift (fun _ => 0) = handle := by
  simp [shift]

theorem shift_none : shift (fun _ => 0) = id := funext shift_zero

end Handle

/-- The entry with its generation moved. -/
def TableEntry.shift {α : Type} (offset : UInt32) (entry : TableEntry α) : TableEntry α :=
  ⟨entry.generation + offset, entry.address⟩

/-! ## 3. Tables that correspond -/

namespace HandleTable

variable {α : Type} {offset : UInt32 → UInt32} {a b : HandleTable α}

/-- The entries of `a` are those of `b` with their generations moved, and vacant ones beyond. -/
structure Aligned (offset : UInt32 → UInt32) (a b : HandleTable α) : Prop where
  size : b.entries.size ≤ a.entries.size
  entry : ∀ {index entry}, b.lookup index = some entry →
    a.lookup index = some (entry.shift (offset index))
  vacant : ∀ {index : UInt32}, b.entries.size < index.toNat → index.toNat ≤ a.entries.size →
    a.lookup index = some ⟨offset index, none⟩
  beyond : ∀ {index : UInt32}, a.entries.size < index.toNat → offset index = 0

/-- The same indices are in use, for the same addresses, and the same are issued next. -/
structure Corresponds (offset : UInt32 → UInt32) (a b : HandleTable α) : Prop
    extends Aligned offset a b where
  accounted : a.Accounted
  accounted' : b.Accounted
  limit : a.limit = b.limit
  live : a.live = b.live
  free : a.free = b.free ++
    (List.range' (b.entries.size + 1) (a.entries.size - b.entries.size)).map UInt32.ofNat

/-- An index that has no entry in the one table has none in use in the other. -/
theorem Aligned.unused (aligned : Aligned offset a b) {index : UInt32}
    (unknown : b.lookup index = none) :
    a.lookup index = none ∨ ∃ generation, a.lookup index = some ⟨generation, none⟩ := by
  cases known : a.lookup index with
  | none => exact .inl rfl
  | some entry =>
    obtain ⟨pos, inside⟩ := exists_lookup_iff.mp ⟨entry, known⟩
    have outside : b.entries.size < index.toNat := by
      refine Nat.lt_of_not_le fun inside' => ?_
      obtain ⟨entry', known'⟩ := exists_lookup_iff.mpr ⟨pos, inside'⟩
      cases unknown.symm.trans known'
    exact .inr ⟨_, known.symm.trans (aligned.vacant outside inside)⟩

/-- A handle stands for the same address in the one table as the moved one in the other. -/
theorem Aligned.resolve (aligned : Aligned offset a b) (handle : Handle) :
    a.resolve (handle.shift offset) = b.resolve handle := by
  simp only [HandleTable.resolve, Handle.shift, Option.bind_eq_bind]
  cases known : b.lookup handle.index with
  | none =>
    rcases aligned.unused known with none | ⟨generation, vacant⟩
    · rw [none]
      rfl
    · rw [vacant]
      exact ite_self _
  | some entry =>
    rw [aligned.entry known]
    simp [TableEntry.shift]

theorem Aligned.isLive (aligned : Aligned offset a b) (handle : Handle) :
    a.isLive (handle.shift offset) = b.isLive handle := by
  rw [HandleTable.isLive, HandleTable.isLive, aligned.resolve]

theorem Aligned.setEntry (aligned : Aligned offset a b) {index : UInt32} {old : TableEntry α}
    (known : b.lookup index = some old) (entry : TableEntry α) :
    Aligned offset (a.setEntry index (entry.shift (offset index))) (b.setEntry index entry) where
  size := by
    rw [size_setEntry, size_setEntry]
    exact aligned.size
  entry {other found} known' := by
    rw [lookup_setEntry known] at known'
    rw [lookup_setEntry (aligned.entry known)]
    by_cases same : other = index
    · rw [if_pos same] at known' ⊢
      cases known'
      rw [same]
    · rw [if_neg same] at known' ⊢
      exact aligned.entry known'
  vacant {other} outside inside := by
    rw [size_setEntry] at outside inside
    have differ : other ≠ index := by
      rintro rfl
      exact Nat.not_le_of_lt outside (exists_lookup_iff.mp ⟨old, known⟩).2
    rw [lookup_setEntry (aligned.entry known), if_neg differ]
    exact aligned.vacant outside inside
  beyond outside := aligned.beyond ((size_setEntry a index _).symm.trans_lt outside)

theorem Corresponds.refl {table : HandleTable α} (accounted : table.Accounted) :
    Corresponds (fun _ => 0) table table where
  size := Nat.le_refl _
  entry {index entry} known := by
    rw [known]
    simp [TableEntry.shift]
  vacant outside inside := absurd inside (Nat.not_le_of_lt outside)
  beyond _ := rfl
  accounted := accounted
  accounted' := accounted
  limit := rfl
  live := rfl
  free := by simp

/-- A table whose handles were all ended corresponds to one that never issued any. -/
theorem corresponds_ended {table : HandleTable α} (accounted : table.Accounted)
    {max : Option UInt32} (limit : table.limit = (empty (α := α) max).limit) :
    Corresponds table.invalidateAll.nextGeneration table.invalidateAll (empty max) where
  size := Nat.zero_le _
  entry {index entry} known := by
    obtain ⟨pos, inside⟩ := exists_lookup_iff.mp ⟨entry, known⟩
    exact absurd (Nat.lt_of_lt_of_le pos inside) (Nat.lt_irrefl 0)
  vacant {index} pos inside := by
    have dead := accounted.invalidateAll.free_iff index
    rw [mem_invalidateAll_free accounted] at dead
    have inside : index.toNat ≤ (table.entries.map TableEntry.ended).size := inside
    rw [Array.size_map] at inside
    obtain ⟨generation, vacant⟩ := dead.mp ⟨pos, inside⟩
    rw [nextGeneration, vacant]
    rfl
  beyond {index} outside := by
    cases known : table.invalidateAll.lookup index with
    | none => rw [nextGeneration, known]; rfl
    | some entry =>
      have inside := (exists_lookup_iff.mp ⟨entry, known⟩).2
      exact absurd inside (Nat.not_le_of_lt outside)
  accounted := accounted.invalidateAll
  accounted' := accounted_empty max
  limit := limit
  live := rfl
  free := by
    show (List.range' 1 table.entries.size).map UInt32.ofNat =
      [] ++ (List.range' 1 ((table.entries.map TableEntry.ended).size - 0)).map UInt32.ofNat
    rw [Array.size_map]
    rfl

/-! ## 4. Issuing from tables that correspond -/

theorem Corresponds.register_free (h : Corresponds offset a b) {index : UInt32}
    {rest : List UInt32} (free : b.free = index :: rest) (address : α) :
    (register address a).answer = (register address b).answer.map (·.shift offset) ∧
      Corresponds offset (register address a).state (register address b).state := by
  have free' := h.free
  rw [free, List.cons_append] at free'
  obtain ⟨generation, vacant, run⟩ := register_of_free h.accounted' free
  obtain ⟨generation', vacant', run'⟩ := register_of_free h.accounted free'
  have accounted := h.accounted.register address
  have accounted' := h.accounted'.register address
  obtain rfl : generation' = generation + offset index := by
    cases vacant'.symm.trans (h.entry vacant)
    rfl
  have aligned := h.toAligned.setEntry vacant ⟨generation, some address⟩
  rw [run'] at accounted ⊢
  rw [run] at accounted' ⊢
  refine ⟨rfl, ⟨aligned.size, aligned.entry, aligned.vacant, aligned.beyond⟩, accounted,
    accounted', h.limit, congrArg (· + 1) h.live, ?_⟩
  show rest ++ _ = rest ++ _
  simp only [size_setEntry]

/-- Two tables of one size get a new index each. -/
theorem Corresponds.extended_both (h : Corresponds offset a b) (none : b.free = [])
    (room : ¬ b.limit < b.entries.size + 1) (same : b.entries.size = a.entries.size) :
    a.free = [] ∧ ¬ a.limit < a.entries.size + 1 ∧ Corresponds offset a.extended b.extended := by
  have none' : a.free = [] := by rw [h.free, none, same]; simp
  have room' : ¬ a.limit < a.entries.size + 1 := by rw [h.limit, ← same]; exact room
  have size := size_extended b
  have size' := size_extended a
  refine ⟨none', room', ⟨?_, fun {index entry} known => ?_, fun {index} outside inside => ?_,
    fun {index} outside => ?_⟩, accounted_extended h.accounted none' room',
    accounted_extended h.accounted' none room, h.limit, h.live, ?_⟩
  · omega
  · rw [lookup_extended] at known
    rw [lookup_extended, ← same]
    split at known
    · next new =>
      cases known
      have unmoved : offset index = 0 := h.beyond (by omega)
      simp [new, TableEntry.shift, unmoved]
    · next old =>
      rw [if_neg old]
      exact h.entry known
  · omega
  · exact h.beyond (by omega)
  · show [UInt32.ofNat _] = [UInt32.ofNat _] ++ _
    rw [size, size', same]
    simp

/-- A table with fewer entries gets an index that is vacant in the other one. -/
theorem Corresponds.extended_one (h : Corresponds offset a b) (none : b.free = [])
    (room : ¬ b.limit < b.entries.size + 1) (more : b.entries.size < a.entries.size) :
    Corresponds offset a b.extended := by
  have size := size_extended b
  refine ⟨⟨?_, fun {index entry} known => ?_, fun {index} outside inside => ?_, h.beyond⟩,
    h.accounted, accounted_extended h.accounted' none room, h.limit, h.live, ?_⟩
  · omega
  · rw [lookup_extended] at known
    split at known
    · next new =>
      cases known
      rw [h.vacant (by omega) (by omega)]
      simp [TableEntry.shift]
    · exact h.entry known
  · exact h.vacant (by omega) inside
  · have count : a.entries.size - b.entries.size = a.entries.size - (b.entries.size + 1) + 1 := by
      omega
    rw [h.free, none, size, count, List.range'_succ]
    rfl

/-- With no index free in the one table, the other has its next index free, or none too. -/
theorem Corresponds.extended (h : Corresponds offset a b) (none : b.free = [])
    (room : ¬ b.limit < b.entries.size + 1) :
    ∃ start, (∀ address, register address a = register address start) ∧
      Corresponds offset start b.extended := by
  rcases Nat.eq_or_lt_of_le h.size with same | more
  · obtain ⟨none', room', extended⟩ := h.extended_both none room same
    exact ⟨a.extended, register_of_room none' room', extended⟩
  · exact ⟨a, fun _ => rfl, h.extended_one none room more⟩

/-- The same is issued, but for the generation. -/
theorem Corresponds.register (h : Corresponds offset a b) (address : α) :
    (register address a).answer = (register address b).answer.map (·.shift offset) ∧
      Corresponds offset (register address a).state (register address b).state := by
  cases free : b.free with
  | cons index rest => exact h.register_free free address
  | nil =>
    by_cases full : b.limit < b.entries.size + 1
    · have size : a.entries.size = b.entries.size := by
        have low := h.size
        have high := h.accounted.size_le
        have limit := h.limit
        omega
      have none : a.free = [] := by rw [h.free, free, size]; simp
      have full' : a.limit < a.entries.size + 1 := by rw [h.limit, size]; exact full
      rw [register_of_full free full, register_of_full none full']
      exact ⟨rfl, h⟩
    · obtain ⟨start, run, h'⟩ := h.extended free full
      rw [run, register_of_room free full]
      exact h'.register_free rfl address

/-! ## 5. Moving, ending and counting in tables that correspond -/

theorem Corresponds.relocate (h : Corresponds offset a b) (handle : Handle) (address : α) :
    (relocate (handle.shift offset) address a).answer = (relocate handle address b).answer ∧
      Corresponds offset (relocate (handle.shift offset) address a).state
        (relocate handle address b).state := by
  have accounted := h.accounted.relocate (handle.shift offset) address
  have accounted' := h.accounted'.relocate handle address
  unfold HandleTable.relocate at accounted accounted' ⊢
  rw [h.isLive] at accounted ⊢
  split
  · next live =>
    rw [if_pos live] at accounted accounted'
    obtain ⟨old, known⟩ := lookup_of_isLive live
    have aligned := h.toAligned.setEntry known ⟨handle.generation, some address⟩
    refine ⟨rfl, aligned, accounted, accounted', h.limit, h.live, ?_⟩
    show a.free = b.free ++ _
    rw [size_setEntry, size_setEntry]
    exact h.free
  · exact ⟨rfl, h⟩

theorem Corresponds.invalidate (h : Corresponds offset a b) (handle : Handle) :
    (invalidate (handle.shift offset) a).answer = (invalidate handle b).answer ∧
      Corresponds offset (invalidate (handle.shift offset) a).state
        (invalidate handle b).state := by
  have isLive := h.isLive handle
  cases live : b.isLive handle with
  | false =>
    rw [invalidate_of_dead live, invalidate_of_dead (isLive.trans live)]
    exact ⟨rfl, h⟩
  | true =>
    have live' := isLive.trans live
    obtain ⟨old, known⟩ := lookup_of_isLive live
    have aligned := h.toAligned.setEntry known ⟨handle.generation + 1, none⟩
    have moved : (⟨handle.generation + 1, none⟩ : TableEntry α).shift (offset handle.index) =
        ⟨(handle.shift offset).generation + 1, none⟩ := by
      simp only [TableEntry.shift, Handle.shift]
      congr 1
      rw [UInt32.add_assoc, UInt32.add_comm 1, ← UInt32.add_assoc]
    rw [moved] at aligned
    rw [invalidate_of_live h.accounted' live, invalidate_of_live h.accounted live']
    refine ⟨rfl, ⟨aligned.size, aligned.entry, aligned.vacant, aligned.beyond⟩,
      h.accounted.ended live', h.accounted'.ended live, h.limit, congrArg (· - 1) h.live, ?_⟩
    show (handle.index :: a.free) = (handle.index :: b.free) ++ _
    rw [h.free, List.cons_append]
    simp only [ended, size_setEntry]

theorem Corresponds.invalidateAll (h : Corresponds offset a b) :
    Corresponds offset a.invalidateAll b.invalidateAll := by
  have size (table : HandleTable α) : table.invalidateAll.entries.size = table.entries.size :=
    Array.size_map
  refine ⟨⟨?_, ?_, ?_, ?_⟩, h.accounted.invalidateAll, h.accounted'.invalidateAll, h.limit, rfl, ?_⟩
  · rw [size, size]
    exact h.size
  · intro index entry known
    rw [lookup_invalidateAll] at known ⊢
    obtain ⟨old, known', rfl⟩ := Option.map_eq_some_iff.mp known
    rw [h.entry known']
    obtain ⟨generation, _ | address⟩ := old
    · rfl
    · simp only [Option.map_some, TableEntry.ended, TableEntry.shift]
      rw [UInt32.add_assoc, UInt32.add_comm (offset index), ← UInt32.add_assoc]
  · intro index outside inside
    rw [size] at outside inside
    rw [lookup_invalidateAll, h.vacant outside inside]
    rfl
  · intro index outside
    rw [size] at outside
    exact h.beyond outside
  · rw [size, size]
    show (List.range' 1 a.entries.size).map _ = (List.range' 1 b.entries.size).map _ ++ _
    have sum : a.entries.size = b.entries.size + (a.entries.size - b.entries.size) := by
      have := h.size
      omega
    rw [← List.map_append]
    nth_rewrite 1 [sum]
    rw [← List.range'_append_1, Nat.add_comm 1]

/-- The entries that only one of the tables has name nothing. -/
theorem Corresponds.map_address (h : Corresponds offset a b) :
    a.entries.toList.map TableEntry.address = b.entries.toList.map TableEntry.address ++
      List.replicate (a.entries.size - b.entries.size) none := by
  have small := h.accounted.limit_lt
  have size := h.accounted.size_le
  have more := h.size
  apply List.ext_getElem?
  intro i
  rw [List.getElem?_append, List.length_map, Array.length_toList, List.getElem?_map,
    List.getElem?_map, Array.getElem?_toList, Array.getElem?_toList, List.getElem?_replicate]
  by_cases inside : i < a.entries.size
  · have toNat : (UInt32.ofNat (i + 1)).toNat = i + 1 := toNat_ofNat (by omega)
    have nonzero : UInt32.ofNat (i + 1) ≠ 0 := by
      intro zero
      have zero := congrArg UInt32.toNat zero
      rw [toNat] at zero
      cases zero
    have at_ (table : HandleTable α) : table.lookup (UInt32.ofNat (i + 1)) = table.entries[i]? := by
      rw [lookup, if_neg nonzero, toNat]
      rfl
    split
    · next known =>
      have entry := Array.getElem?_eq_getElem known
      rw [← at_ a, h.entry ((at_ b).trans entry), entry]
      rfl
    · next unknown =>
      rw [← at_ a, h.vacant (by omega) (by omega), if_pos (by omega)]
      rfl
  · rw [Array.getElem?_eq_none (by omega), if_neg (by omega), if_neg (by omega)]
    rfl

/-- Predicates of the addresses hold of as many live handles. -/
theorem Corresponds.countP (h : Corresponds offset a b) (p : α → Bool) :
    a.toList.countP (fun entry => p entry.2) = b.toList.countP (fun entry => p entry.2) := by
  have count (table : HandleTable α) : table.toList.countP (fun entry => p entry.2) =
      (table.entries.toList.map TableEntry.address).countP (·.any p) := by
    rw [countP_toList, List.countP_map]
    rfl
  rw [count, count, h.map_address, List.countP_append]
  have none_counted := List.countP_eq_zero (p := fun address : Option α => address.any p)
    (l := List.replicate (a.entries.size - b.entries.size) none)
  rw [none_counted.mpr, Nat.add_zero]
  intro address member
  rw [List.eq_of_mem_replicate member]
  simp

end HandleTable

end HandleHeap
