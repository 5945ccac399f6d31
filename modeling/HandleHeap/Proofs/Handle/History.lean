import HandleHeap.Proofs.Handle.Accounting

/-!
# A handle table as a map

What the handles of a table stand for can be told from the operations that were run, without a word
of entries, generations or free indices: a handle stands for the address that it was registered for
or pointed to last, from when it is issued until it is ended (`HandleTable.Stands`).

* `resolve_run_iff`: what a handle resolves to is what it stands for.
* `endings_run`: an index is issued once more than it is ended while it is in use, and else as often.
* `map_of_run`: a table of which no index was ended 2 ^ 32 times is a map from the handles that are
  not ended to addresses, and issues none of the handles that it issued before (`MapOf`).
-/

namespace HandleHeap

variable {α : Type}

/-! ## 1. The history of a handle -/

namespace TableOperation

/-- Whether an operation ends a handle. -/
def Ends (handle : Handle) : TableOperation α → Prop
  | .invalidate target => target = handle
  | .invalidateAll => True
  | _ => False

/-- What a live handle stands for after an operation that does not end it. -/
def moved (handle : Handle) (address : α) : TableOperation α → α
  | .relocate target new => if target = handle then new else address
  | _ => address

end TableOperation

namespace HandleTable

/-- A run issued a handle and did not end it since. It was registered for the address, or pointed to
it last. -/
def Stands (start : HandleTable α) (operations : List (TableOperation α)) (handle : Handle)
    (address : α) : Prop :=
  ∃ past first later, operations = past ++ .register first :: later ∧
    (register first (start.run past)).answer = .ok handle ∧
    (∀ operation ∈ later, ¬ operation.Ends handle) ∧
    later.foldl (TableOperation.moved handle) first = address

/-- What a live handle stands for after operations none of which ends it. -/
def Lasts (table : HandleTable α) (operations : List (TableOperation α)) (handle : Handle)
    (address : α) : Prop :=
  ∃ old, table.resolve handle = some old ∧ (∀ operation ∈ operations, ¬ operation.Ends handle) ∧
    operations.foldl (TableOperation.moved handle) old = address

/-- How often an operation ends the handle of an index: once or not at all. -/
def ending (table : HandleTable α) (index : UInt32) : TableOperation α → Nat
  | .invalidate handle => if handle.index = index ∧ table.isLive handle = true then 1 else 0
  | .invalidateAll => if table.inUse index = true then 1 else 0
  | _ => 0

/-- How often operations end the handle of an index. -/
def endings (table : HandleTable α) (index : UInt32) : List (TableOperation α) → Nat
  | [] => 0
  | operation :: rest => table.ending index operation + (table.perform operation).endings index rest

namespace HistoryLemmas

/-! ## 2. What handles stand for -/

/-- Registering an address adds what the new handle stands for, if there is one. -/
theorem resolve_registered (table : HandleTable α) (new : α) (handle : Handle) (address : α) :
    (register new table).state.resolve handle = some address ↔
      new = address ∧ (register new table).answer = .ok handle ∨
      table.resolve handle = some address := by
  rcases run : register new table with ⟨stop | issued, after, events⟩
  · rw [resolve_register_error run]
    exact ⟨.inr, fun either => either.resolve_left nofun⟩
  · obtain ⟨dead, resolve⟩ := resolve_register run
    rw [show (⟨.ok issued, after, events⟩ : Outcome Stop _ _).state.resolve handle = _ from
      resolve handle]
    by_cases own : handle = issued
    · rw [if_pos own, own, dead]
      simp
    · have other : (.ok issued : Except Stop Handle) ≠ .ok handle :=
        fun same => own (Except.ok.inj same).symm
      rw [if_neg own]
      exact ⟨.inr, fun either => either.resolve_left fun issued => other issued.2⟩

/-- Pointing a live handle elsewhere changes what it stands for, and nothing else. -/
theorem resolve_relocated (table : HandleTable α) (target : Handle) (new : α) (handle : Handle)
    (address : α) :
    (relocate target new table).state.resolve handle = some address ↔
      ∃ old, table.resolve handle = some old ∧
        (if target = handle then new else old) = address := by
  by_cases live : table.isLive target = true
  · rw [resolve_relocate live]
    by_cases own : handle = target
    · cases own
      obtain ⟨old, known⟩ := isLive_iff.mp live
      simp [known]
    · simp [own, Ne.symm own]
  · have dead : table.resolve target = none := Option.not_isSome_iff_eq_none.mp live
    rw [relocate, if_neg live]
    by_cases own : target = handle
    · cases own
      simp [dead]
    · simp [own]

/-- One operation issues a handle for an address, or keeps it, or points it elsewhere. -/
theorem resolve_perform (table : HandleTable α) (operation : TableOperation α) (handle : Handle)
    (address : α) :
    (table.perform operation).resolve handle = some address ↔
      (operation = .register address ∧ (register address table).answer = .ok handle) ∨
      table.Lasts [operation] handle address := by
  simp only [Lasts, List.mem_singleton, forall_eq, List.foldl_cons, List.foldl_nil]
  cases operation with
  | register new =>
    simp only [perform, TableOperation.register.injEq, TableOperation.Ends, TableOperation.moved,
      not_false_eq_true, true_and, exists_eq_right]
    refine (resolve_registered ..).trans (or_congr_left ?_)
    constructor
    · rintro ⟨rfl, issued⟩
      exact ⟨rfl, issued⟩
    · rintro ⟨rfl, issued⟩
      exact ⟨rfl, issued⟩
  | relocate target new =>
    simp only [perform, reduceCtorEq, false_and, false_or, TableOperation.Ends,
      TableOperation.moved, not_false_eq_true, true_and]
    exact resolve_relocated ..
  | invalidate target =>
    simp only [perform, reduceCtorEq, false_and, false_or, TableOperation.Ends,
      TableOperation.moved, resolve_invalidate]
    by_cases own : handle = target
    · simp [own]
    · simp [own, Ne.symm own]
  | invalidateAll =>
    simp [perform, resolve_invalidateAll, TableOperation.Ends]

theorem lasts_cons (table : HandleTable α) (operation : TableOperation α)
    (rest : List (TableOperation α)) (handle : Handle) (address : α) :
    table.Lasts (operation :: rest) handle address ↔
      ∃ middle, table.Lasts [operation] handle middle ∧
        (∀ operation ∈ rest, ¬ operation.Ends handle) ∧
        rest.foldl (TableOperation.moved handle) middle = address := by
  simp only [Lasts, List.mem_cons, forall_eq_or_imp, List.foldl_cons, List.not_mem_nil,
    false_implies, implies_true, and_true, List.foldl_nil]
  constructor
  · rintro ⟨old, known, ⟨spares, rest⟩, last⟩
    exact ⟨_, ⟨old, known, spares, rfl⟩, rest, last⟩
  · rintro ⟨_, ⟨old, known, spares, rfl⟩, rest, last⟩
    exact ⟨old, known, ⟨spares, rest⟩, last⟩

/-- The first operation issued the handle, or a later one did. -/
theorem stands_cons (table : HandleTable α) (operation : TableOperation α)
    (rest : List (TableOperation α)) (handle : Handle) (address : α) :
    table.Stands (operation :: rest) handle address ↔
      (table.perform operation).Stands rest handle address ∨
      ∃ first, (operation = .register first ∧ (register first table).answer = .ok handle) ∧
        (∀ operation ∈ rest, ¬ operation.Ends handle) ∧
        rest.foldl (TableOperation.moved handle) first = address := by
  constructor
  · rintro ⟨past, first, later, split, issued, spared, last⟩
    cases past with
    | nil =>
      cases split
      exact .inr ⟨first, ⟨rfl, issued⟩, spared, last⟩
    | cons _ past =>
      cases split
      exact .inl ⟨past, first, later, rfl, issued, spared, last⟩
  · rintro (⟨past, first, later, rfl, issued, spared, last⟩ |
      ⟨first, ⟨rfl, issued⟩, spared, last⟩)
    · exact ⟨operation :: past, first, later, rfl, issued, spared, last⟩
    · exact ⟨[], first, rest, rfl, issued, spared, last⟩

/-- A handle that resolves was issued in the run and not ended since, or was live at the start. -/
theorem resolve_run_iff (table : HandleTable α) (operations : List (TableOperation α))
    (handle : Handle) (address : α) :
    (table.run operations).resolve handle = some address ↔
      table.Stands operations handle address ∨ table.Lasts operations handle address := by
  induction operations generalizing table with
  | nil => simp [run, Stands, Lasts]
  | cons operation rest ih =>
    show ((table.perform operation).run rest).resolve handle = some address ↔ _
    rw [ih, stands_cons, lasts_cons, or_assoc]
    refine or_congr_right ?_
    -- What lasts through the rest was issued by the first operation or lasted through it.
    rw [Lasts]
    simp only [resolve_perform, or_and_right, exists_or]

/-! ## 3. How often an index is ended -/

theorem inUse_perform (table : HandleTable α) (operation : TableOperation α) (index : UInt32) :
    ((table.perform operation).inUse index).toNat + table.ending index operation =
      (table.inUse index).toNat + ((table.issue? operation).any (·.index = index)).toNat := by
  cases operation with
  | register address =>
    show ((register address table).state.inUse index).toNat + 0 = (table.inUse index).toNat +
      ((register address table).answer.toOption.any (·.index = index)).toNat
    have extended {start : HandleTable α} (more : table.Extends start) :
        start.inUse index = table.inUse index := by
      rcases more index with same | ⟨unknown, vacant⟩
      · simp only [inUse, same]
      · simp [inUse, unknown, vacant]
    rcases register_cases address table with full | ⟨taken, start, run, more⟩
    · rw [full]
      rfl
    · rw [run, ← extended more]
      rcases occupied : occupy taken address start with ⟨stop | handle, after, events⟩
      · rw [occupy_eq_error occupied]
        rfl
      · obtain ⟨generation, vacant, rfl, entries⟩ := occupy_eq_ok occupied
        have look : after.lookup index =
            if index = taken then some ⟨generation, some address⟩ else start.lookup index := by
          rw [← lookup_setEntry vacant]
          simp only [lookup, entries]
        by_cases same : index = taken
        · subst same
          simp [inUse, look, vacant, Except.toOption]
        · simp [inUse, look, same, Ne.symm same, Except.toOption]
  | relocate handle address =>
    show ((relocate handle address table).state.inUse index).toNat + 0 = _ + 0
    rw [relocate]
    split
    · next live =>
      obtain ⟨old, known⟩ := lookup_of_isLive live
      by_cases same : index = handle.index <;> simp [inUse, lookup_setEntry known, same, known]
    · rfl
  | invalidate handle =>
    show ((invalidate handle table).state.inUse index).toNat + ite _ 1 0 = _ + 0
    by_cases live : table.isLive handle = true
    · obtain ⟨old, known⟩ := lookup_of_isLive live
      have look := lookup_setEntry known ⟨handle.generation + 1, none⟩ index
      rw [lookup, ← entries_invalidate live, ← lookup] at look
      by_cases same : index = handle.index
      · subst same
        simp [inUse, look, known, live]
      · simp [inUse, look, same, Ne.symm same]
    · rw [if_neg fun both => live both.2, invalidate, if_neg live]
  | invalidateAll =>
    show (table.invalidateAll.inUse index).toNat + ite (table.inUse index = true) 1 0 = _ + 0
    have look := lookup_invalidateAll table index
    rcases known : table.lookup index with _ | ⟨generation, _ | address⟩ <;> rw [known] at look <;>
      simp [inUse, look, known, TableEntry.ended]

/-- An index is in use if it was issued once more than it was ended. -/
theorem endings_run (table : HandleTable α) (index : UInt32)
    (operations : List (TableOperation α)) :
    ((table.run operations).inUse index).toNat + table.endings index operations =
      (table.inUse index).toNat + table.issues index operations := by
  induction operations generalizing table with
  | nil => rfl
  | cons operation rest ih =>
    have first := inUse_perform table operation index
    have later := ih (table.perform operation)
    have issue : ((table.issue? operation).any (·.index = index)).toNat =
        if (table.issue? operation).any (·.index = index) then 1 else 0 := by
      cases (table.issue? operation).any (·.index = index) <;> rfl
    rw [endings, GenerationLemmas.issues_cons, ← issue]
    show (((table.perform operation).run rest).inUse index).toNat + _ = _
    omega

theorem endings_append_register (table : HandleTable α) (index : UInt32)
    (operations : List (TableOperation α)) (address : α) :
    table.endings index (operations ++ [.register address]) = table.endings index operations := by
  induction operations generalizing table with
  | nil => rfl
  | cons operation rest ih => rw [List.cons_append, endings, ih, endings]

/-- As long as no index was ended 2 ^ 32 times, no handle was issued twice. -/
theorem nodup_issued {start : HandleTable α} (unused : ∀ index, start.inUse index = false)
    {operations : List (TableOperation α)}
    (few : ∀ index, start.endings index operations < 2 ^ 32) :
    (start.issued operations).Nodup := by
  refine GenerationLemmas.nodup_of_filter fun index => ?_
  rw [GenerationLemmas.issued_at_index]
  refine (GenerationLemmas.nodup_generations_iff ..).mpr ?_
  have counted := endings_run start index operations
  have few := few index
  rw [unused, Bool.toNat_false] at counted
  have := Bool.toNat_le ((start.run operations).inUse index)
  omega

theorem not_mem_issued {start : HandleTable α} (unused : ∀ index, start.inUse index = false)
    {operations : List (TableOperation α)}
    (few : ∀ index, start.endings index operations < 2 ^ 32) {address : α} {handle : Handle}
    (issued : (register address (start.run operations)).answer = .ok handle) :
    handle ∉ start.issued operations := by
  have differ : (start.issued (operations ++ [.register address])).Nodup :=
    nodup_issued unused fun index => by
      rw [endings_append_register]
      exact few index
  have last : (start.run operations).issued [.register address] = [handle] := by
    simp [HandleTable.issued, issue?, issued, Except.toOption]
  rw [GenerationLemmas.issued_append, last] at differ
  exact fun before => List.disjoint_of_nodup_append differ before (List.mem_singleton_self handle)

/-- A handle that is issued is of an index that has an entry. -/
theorem index_ne_zero_of_register {table : HandleTable α} {address : α} {handle : Handle}
    (issued : (register address table).answer = .ok handle) : handle.index ≠ 0 := by
  rcases run : register address table with ⟨stop | _, after, events⟩ <;> rw [run] at issued
  · cases issued
  · cases issued
    obtain ⟨-, resolve⟩ := resolve_register run
    have known := (resolve handle).trans (if_pos rfl)
    exact lookup_ne_zero (resolve_eq_some_iff.mp known)

end HistoryLemmas

open HistoryLemmas

/-! ## 4. Result -/

/-- A table that a run came to is a map from the handles that were issued and not ended. -/
structure MapOf (start : HandleTable α) (operations : List (TableOperation α))
    (table : HandleTable α) : Prop where
  resolve : ∀ handle address,
    table.resolve handle = some address ↔ start.Stands operations handle address
  isLive : ∀ handle,
    table.isLive handle = true ↔ ∃ address, start.Stands operations handle address
  /-- Through a handle that is not live nothing is changed. -/
  dead : ∀ handle, table.isLive handle = false →
    (∀ address, relocate handle address table = ⟨.error (.refused .invalidHandle), table, []⟩) ∧
      invalidate handle table = ⟨.ok false, table, []⟩
  live : ∀ handle, table.isLive handle = true →
    (∀ address, (relocate handle address table).answer = .ok ()) ∧
      (invalidate handle table).answer = .ok true
  others : ∀ handle other, other ≠ handle →
    (∀ address, (relocate handle address table).state.resolve other = table.resolve other) ∧
      (invalidate handle table).state.resolve other = table.resolve other ∧
      ∀ address, (register address table).answer = .ok handle →
        (register address table).state.resolve other = table.resolve other
  fresh : ∀ address handle, (register address table).answer = .ok handle →
    handle.index ≠ 0 ∧ handle ∉ start.issued operations
  full : ∀ address stop, (register address table).answer = .error stop →
    stop = .refused .handleTableFull
  listed : ∀ handle address,
    (handle, address) ∈ table.toList ↔ table.resolve handle = some address
  sorted : table.toList.Pairwise fun a b => a.1.index.toNat < b.1.index.toNat

theorem relocate_of_dead {table : HandleTable α} {handle : Handle}
    (dead : table.isLive handle = false) (address : α) :
    relocate handle address table = ⟨.error (.refused .invalidHandle), table, []⟩ := by
  rw [relocate, if_neg (Bool.eq_false_iff.mp dead)]

/-- Relocating, ending or issuing a handle changes what no other resolves to. -/
theorem resolve_other (table : HandleTable α) {handle other : Handle} (differ : other ≠ handle) :
    (∀ address, (relocate handle address table).state.resolve other = table.resolve other) ∧
      (invalidate handle table).state.resolve other = table.resolve other ∧
      ∀ address, (register address table).answer = .ok handle →
        (register address table).state.resolve other = table.resolve other := by
  refine ⟨fun address => ?_, ?_, fun address issued => ?_⟩
  · cases live : table.isLive handle with
    | true => rw [resolve_relocate live, if_neg differ]
    | false => rw [relocate_of_dead live]
  · rw [resolve_invalidate, if_neg differ]
  · rcases run : register address table with ⟨stop | _, after, events⟩ <;> rw [run] at issued
    · cases issued
    · cases issued
      exact ((resolve_register run).2 other).trans (if_neg differ)

/-- A run from a new table in which no index is ended 2 ^ 32 times comes to a table that is a map from
the handles that were issued and not ended since, for all handles whatsoever. -/
theorem map_of_run {size initial : Nat} {max : Option UInt32} {start : HandleTable α}
    (made : withCapacity size initial max = .ok start) {operations : List (TableOperation α)}
    (few : ∀ index, start.endings index operations < 2 ^ 32) :
    MapOf start operations (start.run operations) := by
  have accounted := (accounted_withCapacity made).run operations
  have resolve (handle : Handle) (address : α) : (start.run operations).resolve handle =
      some address ↔ start.Stands operations handle address := by
    rw [resolve_run_iff, Lasts, resolve_withCapacity made]
    simp
  have unused (index : UInt32) : start.inUse index = false := by
    rw [inUse, lookup_withCapacity made]
    rfl
  exact
    { resolve
      isLive := fun handle => isLive_iff.trans (exists_congr (resolve handle))
      dead := fun handle dead => ⟨relocate_of_dead dead, invalidate_of_dead dead⟩
      live := fun handle live => ⟨fun address => by rw [relocate, if_pos live],
        by rw [invalidate_of_live accounted live]⟩
      others := fun handle other => resolve_other _
      fresh := fun address handle issued =>
        ⟨index_ne_zero_of_register issued, not_mem_issued unused few issued⟩
      full := fun address stop => accounted.register_eq_error
      listed := fun handle address => mem_toList_iff accounted
      sorted := sorted_toList accounted }

/-- A run in which a handle is moved and ended, and its index is issued again. -/
theorem map_small :
    let start : HandleTable Nat := empty (some 2)
    let operations := [.register 7, .relocate ⟨1, 0⟩ 8, .invalidate ⟨1, 0⟩, .register 9]
    (∀ index, start.endings index operations < 2 ^ 32) ∧
      (start.run operations).resolve ⟨1, 1⟩ = some 9 ∧
      ¬ ∃ address, start.Stands operations ⟨1, 0⟩ address := by
  intro start operations
  have few (index : UInt32) : start.endings index operations < 2 ^ 32 := by
    have ended : start.endings index operations = if 1 = index then 1 else 0 := by
      by_cases same : 1 = index
      · subst same
        decide +kernel
      · simp [operations, endings, ending, same]
    rw [ended]
    split <;> decide
  have made : withCapacity 24 0 (some 2) = .ok start := rfl
  have map := map_of_run made few
  exact ⟨few, by decide +kernel,
    fun stands => absurd ((map.isLive ⟨1, 0⟩).mpr stands) (by decide +kernel)⟩

end HandleTable

end HandleHeap
