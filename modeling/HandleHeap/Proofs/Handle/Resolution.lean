import HandleHeap.Handle.Table

/-!
# What a handle table resolves

Each operation on a table is described by what handles resolve to afterwards:
* `resolve_register`: the new handle was dead and has the address; no other handle changes;
* `resolve_relocate`, `resolve_invalidate`: a live handle alone changes;
* `resolve_invalidateAll`: nothing resolves.

A refused operation, or one that ends in a fault, changes what no handle resolves to
(`resolve_register_error`).
-/

namespace HandleHeap.HandleTable

variable {α : Type}

/-! ## Entries -/

theorem lookup_ne_zero {table : HandleTable α} {index : UInt32} {entry : TableEntry α}
    (h : table.lookup index = some entry) : index ≠ 0 := by
  rintro rfl
  cases h

/-- Putting an entry at an index that has one changes that index alone. -/
theorem lookup_setEntry {table : HandleTable α} {index : UInt32} {old : TableEntry α}
    (known : table.lookup index = some old) (entry : TableEntry α) (other : UInt32) :
    (table.setEntry index entry).lookup other =
      if other = index then some entry else table.lookup other := by
  have nonzero := lookup_ne_zero known
  have pos : index.toNat ≠ 0 := fun h => nonzero (UInt32.toNat_inj.mp h)
  by_cases same : other = index
  · subst same
    have inside : other.toNat - 1 < table.entries.size := by
      rw [lookup, if_neg nonzero] at known
      exact (Array.getElem?_eq_some_iff.mp known).1
    rw [lookup, if_neg nonzero, if_pos rfl, setEntry]
    exact Array.getElem?_setIfInBounds_self_of_lt inside
  · rw [if_neg same, lookup, lookup]
    by_cases zero : other = 0
    · rw [if_pos zero, if_pos zero]
    · have pos' : other.toNat ≠ 0 := fun h => zero (UInt32.toNat_inj.mp h)
      have apart : other.toNat ≠ index.toNat := fun h => same (UInt32.toNat_inj.mp h)
      rw [if_neg zero, if_neg zero, setEntry]
      exact Array.getElem?_setIfInBounds_ne (by omega)

/-- A vacant entry at the end of a table is that of the next index, and of no other. -/
theorem lookup_push {table : HandleTable α} {entry : TableEntry α} (index : UInt32) :
    ({ table with entries := table.entries.push entry } : HandleTable α).lookup index =
      if index.toNat = table.entries.size + 1 then some entry else table.lookup index := by
  rw [lookup, lookup]
  by_cases zero : index = 0
  · subst zero
    rw [if_pos rfl, if_pos rfl]
    exact (if_neg (Nat.zero_ne_add_one _)).symm
  · have pos : index.toNat ≠ 0 := fun h => zero (UInt32.toNat_inj.mp h)
    rw [if_neg zero, if_neg zero]
    show (table.entries.push entry)[index.toNat - 1]? = _
    rw [Array.getElem?_push]
    by_cases last : index.toNat = table.entries.size + 1
    · rw [if_pos last, if_pos (by omega)]
    · rw [if_neg last, if_neg (by omega)]

theorem resolve_eq_some_iff {table : HandleTable α} {handle : Handle} {address : α} :
    table.resolve handle = some address ↔
      table.lookup handle.index = some ⟨handle.generation, some address⟩ := by
  simp only [resolve, Option.bind_eq_bind]
  cases table.lookup handle.index with
  | none => simp
  | some entry =>
    obtain ⟨generation, known⟩ := entry
    by_cases same : generation = handle.generation <;> simp [same]

theorem resolve_congr {before after : HandleTable α} {handle : Handle}
    (h : after.lookup handle.index = before.lookup handle.index) :
    after.resolve handle = before.resolve handle := by
  simp only [resolve, h]

theorem isLive_iff {table : HandleTable α} {handle : Handle} :
    table.isLive handle = true ↔ ∃ address, table.resolve handle = some address :=
  Option.isSome_iff_exists

theorem isLive_congr {before after : HandleTable α} {handle : Handle}
    (h : after.resolve handle = before.resolve handle) :
    after.isLive handle = before.isLive handle := by
  simp only [isLive, h]

theorem resolve_setEntry {table : HandleTable α} {index : UInt32} {old : TableEntry α}
    (known : table.lookup index = some old) (entry : TableEntry α) (handle : Handle) :
    (table.setEntry index entry).resolve handle =
      if handle.index = index then
        if entry.generation = handle.generation then entry.address else none
      else table.resolve handle := by
  simp only [resolve, Option.bind_eq_bind, lookup_setEntry known]
  by_cases same : handle.index = index <;> simp [same]

theorem eq_of_withCapacity {size initial : Nat} {max : Option UInt32} {table : HandleTable α}
    (h : withCapacity size initial max = .ok table) : table = empty max := by
  unfold withCapacity at h
  simp only at h
  split at h
  · cases h
  · exact (Except.ok.inj h).symm

/-- A new table has no entries. -/
theorem lookup_withCapacity {size initial : Nat} {max : Option UInt32} {table : HandleTable α}
    (h : withCapacity size initial max = .ok table) (index : UInt32) : table.lookup index = none := by
  rw [eq_of_withCapacity h, lookup]
  split <;> rfl

theorem resolve_withCapacity {size initial : Nat} {max : Option UInt32} {table : HandleTable α}
    (h : withCapacity size initial max = .ok table) (handle : Handle) :
    table.resolve handle = none := by
  rw [resolve, lookup_withCapacity h]
  rfl

/-! ## Issuing a handle -/

theorem occupy_eq_ok {index : UInt32} {address : α} {table after : HandleTable α}
    {handle : Handle} {events : List Event}
    (h : occupy index address table = ⟨.ok handle, after, events⟩) :
    ∃ generation, table.lookup index = some ⟨generation, none⟩ ∧ handle = ⟨index, generation⟩ ∧
      after.entries = (table.setEntry index ⟨generation, some address⟩).entries := by
  unfold occupy at h
  split at h
  · cases h
  · cases h
  · next generation vacant =>
    cases h
    exact ⟨generation, vacant, rfl, rfl⟩

theorem occupy_eq_error {index : UInt32} {address : α} {table after : HandleTable α}
    {stop : Stop} {events : List Event}
    (h : occupy index address table = ⟨.error stop, after, events⟩) : after = table := by
  unfold occupy at h
  split at h
  · cases h
    rfl
  · cases h
    rfl
  · cases h

theorem resolve_of_entries {before after : HandleTable α} (h : after.entries = before.entries)
    (handle : Handle) : after.resolve handle = before.resolve handle :=
  resolve_congr (by simp only [lookup, h])

theorem resolve_occupy {index : UInt32} {address : α} {table after : HandleTable α}
    {handle : Handle} {events : List Event}
    (h : occupy index address table = ⟨.ok handle, after, events⟩) :
    table.resolve handle = none ∧
      ∀ other, after.resolve other =
        if other = handle then some address else table.resolve other := by
  obtain ⟨generation, vacant, rfl, entries⟩ := occupy_eq_ok h
  -- The entry was vacant, so handles of all generations of its index were dead.
  have dead : ∀ other : Handle, other.index = index → table.resolve other = none := by
    intro other same
    simp [resolve, same, vacant]
  refine ⟨dead _ rfl, fun other => ?_⟩
  rw [resolve_of_entries entries, resolve_setEntry vacant]
  by_cases same : other.index = index
  · by_cases generations : generation = other.generation
    · have whole : other = ⟨index, generation⟩ := by cases other; simp_all
      rw [if_pos same, if_pos generations, if_pos whole]
    · have differ : other ≠ ⟨index, generation⟩ := by
        rintro rfl
        exact generations rfl
      rw [if_pos same, if_neg generations, if_neg differ, dead other same]
  · have differ : other ≠ ⟨index, generation⟩ := by
      rintro rfl
      exact same rfl
    rw [if_neg same, if_neg differ]

/-- `after` has the entries of `before`, and maybe vacant ones of generation 0 at other indices. -/
def Extends (before after : HandleTable α) : Prop :=
  ∀ index, after.lookup index = before.lookup index ∨
    (before.lookup index = none ∧ after.lookup index = some ⟨0, none⟩)

theorem extends_push (table : HandleTable α) :
    table.Extends { table with entries := table.entries.push ⟨0, none⟩ } := by
  intro index
  rw [lookup_push]
  split
  · next last =>
    refine .inr ⟨?_, rfl⟩
    rw [lookup]
    split
    · rfl
    · exact Array.getElem?_eq_none (by omega)
  · exact .inl rfl

theorem Extends.resolve_eq {before after : HandleTable α} (h : before.Extends after)
    (handle : Handle) : after.resolve handle = before.resolve handle := by
  rcases h handle.index with same | ⟨unknown, vacant⟩
  · exact resolve_congr same
  · simp [resolve, unknown, vacant]

/-- Registering takes one index into use, of the given table or of that table and one vacant
entry more. -/
theorem register_cases (address : α) (table : HandleTable α) :
    register address table = ⟨.error (.refused .handleTableFull), table, []⟩ ∨
      ∃ index start, register address table = occupy index address start ∧
        table.Extends start := by
  unfold register
  split
  · exact .inr ⟨_, _, rfl, fun _ => .inl rfl⟩
  · simp only
    split
    · exact .inl rfl
    · exact .inr ⟨_, _, rfl, extends_push table⟩

/-- The handle that is issued was dead. It has the address now, and no other handle changes. -/
theorem resolve_register {address : α} {table after : HandleTable α} {handle : Handle}
    {events : List Event} (h : register address table = ⟨.ok handle, after, events⟩) :
    table.resolve handle = none ∧
      ∀ other, after.resolve other =
        if other = handle then some address else table.resolve other := by
  rcases register_cases address table with full | ⟨index, start, run, same⟩
  · rw [full] at h
    cases h
  · rw [run] at h
    obtain ⟨dead, issued⟩ := resolve_occupy h
    exact ⟨same.resolve_eq handle ▸ dead, fun other => same.resolve_eq other ▸ issued other⟩

theorem resolve_register_error {address : α} {table after : HandleTable α} {stop : Stop}
    {events : List Event} (h : register address table = ⟨.error stop, after, events⟩)
    (handle : Handle) : after.resolve handle = table.resolve handle := by
  rcases register_cases address table with full | ⟨index, start, run, same⟩
  · rw [full] at h
    cases h
    rfl
  · rw [run] at h
    rw [occupy_eq_error h]
    exact same.resolve_eq handle

/-! ## Moving and ending a record -/

theorem lookup_of_isLive {table : HandleTable α} {handle : Handle}
    (live : table.isLive handle = true) :
    ∃ address, table.lookup handle.index = some ⟨handle.generation, some address⟩ := by
  obtain ⟨address, known⟩ := isLive_iff.mp live
  exact ⟨address, resolve_eq_some_iff.mp known⟩

theorem resolve_relocate {handle : Handle} {table : HandleTable α}
    (live : table.isLive handle = true) (address : α) (other : Handle) :
    (relocate handle address table).state.resolve other =
      if other = handle then some address else table.resolve other := by
  obtain ⟨old, known⟩ := lookup_of_isLive live
  rw [relocate, if_pos live, resolve_setEntry known]
  by_cases same : other.index = handle.index
  · by_cases generations : handle.generation = other.generation
    · have whole : other = handle := by cases other; cases handle; simp_all
      rw [if_pos same, if_pos generations, if_pos whole]
    · have differ : other ≠ handle := by
        rintro rfl
        exact generations rfl
      have dead : table.resolve other = none := by simp [resolve, same, known, generations]
      rw [if_pos same, if_neg generations, if_neg differ, dead]
  · have differ : other ≠ handle := by
      rintro rfl
      exact same rfl
    rw [if_neg same, if_neg differ]

/-- The entry of a handle that is ended is free, in the next generation. -/
theorem entries_invalidate {handle : Handle} {table : HandleTable α}
    (live : table.isLive handle = true) : (invalidate handle table).state.entries =
      (table.setEntry handle.index ⟨handle.generation + 1, none⟩).entries := by
  rw [invalidate, if_pos live]
  simp only
  split <;> rfl

theorem resolve_invalidate (handle : Handle) (table : HandleTable α) (other : Handle) :
    (invalidate handle table).state.resolve other =
      if other = handle then none else table.resolve other := by
  by_cases live : table.isLive handle = true
  · obtain ⟨address, known⟩ := lookup_of_isLive live
    rw [resolve_of_entries (entries_invalidate live), resolve_setEntry known]
    by_cases same : other.index = handle.index
    · by_cases whole : other = handle
      · simp [whole]
      · have dead : table.resolve other = none := by
          have generations : handle.generation ≠ other.generation := by
            intro generations
            exact whole (by cases other; cases handle; simp_all)
          simp [resolve, same, known, generations]
        simp [same, whole, dead]
    · have differ : other ≠ handle := by
        rintro rfl
        exact same rfl
      rw [if_neg same, if_neg differ]
  · rw [invalidate, if_neg live]
    by_cases whole : other = handle
    · rw [if_pos whole, whole]
      exact Option.not_isSome_iff_eq_none.mp live
    · rw [if_neg whole]

theorem lookup_invalidateAll (table : HandleTable α) (index : UInt32) :
    table.invalidateAll.lookup index = (table.lookup index).map TableEntry.ended := by
  rw [lookup, lookup]
  split
  · rfl
  · exact Array.getElem?_map

theorem resolve_invalidateAll (table : HandleTable α) (handle : Handle) :
    table.invalidateAll.resolve handle = none := by
  simp only [resolve, Option.bind_eq_bind, lookup_invalidateAll]
  cases table.lookup handle.index with
  | none => rfl
  | some entry =>
    obtain ⟨generation, _ | address⟩ := entry <;> simp [TableEntry.ended]

end HandleHeap.HandleTable
