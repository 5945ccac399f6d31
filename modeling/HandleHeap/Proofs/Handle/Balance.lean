import HandleHeap.Proofs.Handle.Accounting
import Mathlib.Data.Set.Card

/-!
# No index of a handle table is lost

Where the accounts of a table agree, the free list holds each index that is not in use once, and
no other index. So the indices in use and the free ones add up to those that the table has, and
only a table with as many live handles as it may ever have refuses one more.

* `free_perm`: the free list, as the vacant ones among all indices of the table.
* `live_add_free`: what is live and what is free add up to the capacity.
* `Balanced`, `Accounted.balanced`: all that can be observed of the accounts, at once.
* `countP_eq_ncard`: the number of entries that a listing shows is a number of handles.
-/

namespace HandleHeap.HandleTable

variable {α : Type}

/-! ## 1. Vacant indices -/

/-- The indices that a table has, from 1 on. They are what ending every handle makes free. -/
def indices (table : HandleTable α) : List UInt32 := table.invalidateAll.free

theorem indices_eq (table : HandleTable α) :
    table.indices = (List.range' 1 table.capacity).map UInt32.ofNat := rfl

theorem mem_indices {table : HandleTable α} (accounted : table.Accounted) {index : UInt32} :
    index ∈ table.indices ↔ 0 < index.toNat ∧ index.toNat ≤ table.capacity :=
  mem_invalidateAll_free accounted index

theorem length_indices (table : HandleTable α) : table.indices.length = table.capacity := by
  rw [indices_eq, List.length_map, List.length_range']

/-- An index is free if the table has it and does not use it. -/
theorem Accounted.mem_free_iff {table : HandleTable α} (accounted : table.Accounted)
    {index : UInt32} : index ∈ table.free ↔
      (0 < index.toNat ∧ index.toNat ≤ table.capacity) ∧ table.inUse index = false := by
  rw [accounted.free_iff, capacity, ← exists_lookup_iff, inUse]
  rcases table.lookup index with _ | ⟨generation, _ | address⟩ <;> simp

/-- The free list holds the vacant indices, each once. -/
theorem Accounted.free_perm {table : HandleTable α} (accounted : table.Accounted) :
    table.free.Perm (table.indices.filter fun index => !table.inUse index) := by
  refine (List.perm_ext_iff_of_nodup accounted.nodup
    (accounted.invalidateAll.nodup.filter _)).mpr fun index => ?_
  rw [List.mem_filter, Bool.not_eq_true', accounted.mem_free_iff]
  exact and_congr_left' (mem_indices accounted).symm

/-- Going through the indices is going through the entries. -/
theorem Accounted.map_inUse {table : HandleTable α} (accounted : table.Accounted) :
    table.indices.map table.inUse = table.entries.toList.map (·.address.isSome) := by
  have small := accounted.limit_lt
  have size := accounted.size_le
  rw [indices_eq, List.map_map]
  refine List.ext_getElem (by simp [capacity]) fun position _ inside => ?_
  rw [List.length_map, Array.length_toList] at inside
  have toNat : (UInt32.ofNat (1 + position)).toNat = 1 + position := toNat_ofNat (by omega)
  have known : table.lookup (UInt32.ofNat (1 + position)) = some table.entries[position] := by
    refine lookup_eq_some_iff.mpr ⟨fun zero => ?_, ?_⟩
    · have zero := congrArg UInt32.toNat zero
      rw [toNat] at zero
      exact absurd zero (by simp)
    · rw [toNat, Nat.add_sub_cancel_left]
      exact Array.getElem?_eq_getElem inside
  rw [List.getElem_map, List.getElem_range', Nat.one_mul, List.getElem_map, Array.getElem_toList,
    Function.comp_apply, inUse, known]
  rfl

/-- What is live and what is free add up to what the table has. -/
theorem Accounted.live_add_free {table : HandleTable α} (accounted : table.Accounted) :
    table.live + table.free.length = table.capacity := by
  have used : table.live = table.indices.countP table.inUse := calc
    table.live
    _ = (table.entries.toList.map (·.address.isSome)).countP id := by
      rw [accounted.live_eq, List.countP_map]
      rfl
    _ = table.indices.countP table.inUse := by
      rw [← accounted.map_inUse, List.countP_map]
      rfl
  have vacant : table.free.length = table.indices.countP fun index => !table.inUse index := by
    rw [accounted.free_perm.length_eq, List.countP_eq_length_filter]
  rw [used, vacant, ← length_indices, List.length_eq_countP_add_countP table.inUse]
  congr 1
  exact List.countP_congr fun index _ => by cases table.inUse index <;> simp

/-! ## 2. When a handle is issued -/

/-- A handle is issued as long as fewer are live than may be. -/
theorem Accounted.register_isOk_iff {table : HandleTable α} (accounted : table.Accounted)
    (address : α) :
    (∃ handle, (HandleTable.register address table).answer = .ok handle) ↔
      table.live < table.limit := by
  have sum := accounted.live_add_free
  have size := accounted.size_le
  unfold capacity at sum
  cases free : table.free with
  | cons index rest =>
    obtain ⟨generation, -, run⟩ := register_of_free accounted free
    rw [free, List.length_cons] at sum
    exact iff_of_true ⟨_, congrArg Outcome.answer (run address)⟩ (by omega)
  | nil =>
    rw [free, List.length_nil] at sum
    by_cases full : table.limit < table.entries.size + 1
    · rw [register_of_full free full]
      refine iff_of_false ?_ (by omega)
      rintro ⟨_, answer⟩
      cases answer
    · obtain ⟨generation, -, run⟩ :=
        register_of_free (accounted_extended accounted free full) (rfl : _ = _ :: [])
      rw [register_of_room free full]
      exact iff_of_true ⟨_, congrArg Outcome.answer (run address)⟩ (by omega)

/-- A full table refuses a handle and stays as it is. -/
theorem Accounted.register_full {table : HandleTable α} (accounted : table.Accounted)
    (full : ¬ table.live < table.limit) (address : α) :
    HandleTable.register address table = ⟨.error (.refused .handleTableFull), table, []⟩ := by
  have sum := accounted.live_add_free
  have size := accounted.size_le
  unfold capacity at sum
  have none : table.free = [] := List.eq_nil_of_length_eq_zero (by omega)
  exact register_of_full none (by omega) address

/-! ## 3. The accounts as they are observed -/

/-- The accounts of a table that may have `limit` handles live at once. -/
structure Balanced (limit : Nat) (table : HandleTable α) : Prop where
  /-- As many handles are live as entries are in use. -/
  occupied : table.live = table.entries.toList.countP (·.address.isSome)
  listed : table.live = table.toList.length
  nodup : table.free.Nodup
  /-- Free are the indices up to the capacity that are not in use. -/
  free_iff : ∀ index, index ∈ table.free ↔
    (0 < index.toNat ∧ index.toNat ≤ table.capacity) ∧ table.inUse index = false
  sum : table.live + table.free.length = table.capacity
  bounded : table.capacity ≤ limit
  /-- A handle is issued as long as fewer than `limit` are live. -/
  issues_iff : ∀ address,
    (∃ handle, (register address table).answer = .ok handle) ↔ table.live < limit
  full : ∀ address, ¬ table.live < limit →
    register address table = ⟨.error (.refused .handleTableFull), table, []⟩

theorem Accounted.balanced {table : HandleTable α} (accounted : table.Accounted) :
    table.Balanced table.limit where
  occupied := accounted.live_eq
  listed := accounted.live_eq.trans table.length_toList.symm
  nodup := accounted.nodup
  free_iff _ := accounted.mem_free_iff
  sum := accounted.live_add_free
  bounded := accounted.size_le
  issues_iff := accounted.register_isOk_iff
  full address few := accounted.register_full few address

/-! ## 4. Counting handles -/

/-- Counting what a listing shows is counting the handles that stand for it. -/
theorem Accounted.countP_eq_ncard {table : HandleTable α} (accounted : table.Accounted)
    (p : α → Bool) :
    table.toList.countP (fun entry => p entry.2) =
      {handle | (table.resolve handle).any p = true}.ncard := by
  classical
  have distinct : ((table.toList.filter fun entry => p entry.2).map Prod.fst).Nodup :=
    (nodup_toList accounted).sublist (List.filter_sublist.map _)
  have listed : {handle | (table.resolve handle).any p = true} =
      ((table.toList.filter fun entry => p entry.2).map Prod.fst).toFinset := by
    ext handle
    simp only [Set.mem_ofPred_eq, List.coe_toFinset, List.mem_map, List.mem_filter,
      Option.any_eq_true]
    constructor
    · rintro ⟨address, known, holds⟩
      exact ⟨(handle, address), ⟨(mem_toList_iff accounted).mpr known, holds⟩, rfl⟩
    · rintro ⟨⟨_, address⟩, ⟨member, holds⟩, rfl⟩
      exact ⟨address, (mem_toList_iff accounted).mp member, holds⟩
  rw [listed, Set.ncard_coe_finset, List.toFinset_card_of_nodup distinct, List.length_map,
    List.countP_eq_length_filter]

end HandleHeap.HandleTable
