import HandleHeap.Proofs.Handle.Resolution
import Mathlib.Algebra.Order.Ring.Nat

/-!
# How long a handle stays dead

An index is issued with one generation after the other, and a generation is a 32-bit word. So a
handle is dead for good only as long as its index is not issued 2 ^ 32 times more.

* `nextGeneration` is what a run is followed by: the generation that an index is issued with next.
  Only issuing the index moves it, by one, whichever way the handle before was ended.
* `reissued_iff`: the handles of a run differ exactly if no index is issued more than 2 ^ 32 times.
  A handle is live at a later point exactly if its index is in use and was issued a multiple of
  2 ^ 32 times since, so a dead one stays dead until then (`dead_of_few_issues`).
* `revived_after_generation_wraps`: a run in which a handle that was invalidated resolves again.
-/

namespace HandleHeap

/-- One operation on a handle table. -/
inductive TableOperation (α : Type)
  | register (address : α)
  | relocate (handle : Handle) (address : α)
  | invalidate (handle : Handle)
  | invalidateAll

namespace HandleTable

variable {α : Type}

/-! ## 1. Runs -/

/-- The table after an operation, whatever it answered. -/
def perform (table : HandleTable α) : TableOperation α → HandleTable α
  | .register address => (register address table).state
  | .relocate handle address => (relocate handle address table).state
  | .invalidate handle => (invalidate handle table).state
  | .invalidateAll => table.invalidateAll

/-- The handle that an operation issues. -/
def issue? (table : HandleTable α) : TableOperation α → Option Handle
  | .register address => (register address table).answer.toOption
  | _ => none

/-- The table after operations in order. -/
def run (table : HandleTable α) (operations : List (TableOperation α)) : HandleTable α :=
  operations.foldl perform table

/-- The handles issued by operations in order. -/
def issued (table : HandleTable α) : (operations : List (TableOperation α)) → List Handle
  | [] => []
  | operation :: rest => (table.issue? operation).toList ++ (table.perform operation).issued rest

/-- How often operations issue an index. -/
def issues (table : HandleTable α) (index : UInt32) (operations : List (TableOperation α)) : Nat :=
  ((table.issued operations).filter (·.index = index)).length

/-- Whether an index stands for an address. -/
def inUse (table : HandleTable α) (index : UInt32) : Bool :=
  ((table.lookup index).bind TableEntry.address).isSome

/-- The generation that an index is issued with next. -/
def nextGeneration (table : HandleTable α) (index : UInt32) : UInt32 :=
  ((table.lookup index).map (·.ended.generation)).getD 0

/-- The handle in use at an index is of the generation before the next one. -/
theorem isLive_iff_next {table : HandleTable α} {handle : Handle} :
    table.isLive handle = true ↔ table.inUse handle.index = true ∧
      table.nextGeneration handle.index = handle.generation + 1 := by
  simp only [isLive, resolve, inUse, nextGeneration, Option.bind_eq_bind]
  cases table.lookup handle.index with
  | none => simp
  | some entry =>
    obtain ⟨generation, _ | address⟩ := entry
    · simp
    · by_cases same : generation = handle.generation <;> simp [TableEntry.ended, same]

/-! ## 2. What one operation does -/

namespace GenerationLemmas

/-- One operation moves the next generation of an index by the number of handles it issues for the
index, and takes an index into use only by issuing it. -/
structure Follows (index : UInt32) (before after : HandleTable α) (issued : Option Handle) :
    Prop where
  next : after.nextGeneration index =
    before.nextGeneration index + if issued.any (·.index = index) then 1 else 0
  generation : ∀ handle, issued = some handle → handle.index = index →
    handle.generation = before.nextGeneration index
  inUse : after.inUse index = true → before.inUse index = true ∨ issued.any (·.index = index)

theorem Follows.of_lookup {index : UInt32} {before after : HandleTable α}
    (h : after.lookup index = before.lookup index) : Follows index before after none where
  next := by simp [nextGeneration, h]
  generation := by simp
  inUse := by simp [HandleTable.inUse, h]

/-- An entry in place of another that has the same next generation. -/
theorem Follows.of_setEntry {table : HandleTable α} {taken : UInt32} {old : TableEntry α}
    (known : table.lookup taken = some old) (entry : TableEntry α)
    (next : entry.ended.generation = old.ended.generation)
    (used : entry.address.isSome = true → old.address.isSome = true) (index : UInt32) :
    Follows index table (table.setEntry taken entry) none := by
  by_cases same : index = taken
  · subst same
    refine ⟨?_, by simp, ?_⟩
    · simp [nextGeneration, lookup_setEntry known, known, next]
    · simpa [HandleTable.inUse, lookup_setEntry known, known] using used
  · exact .of_lookup (by rw [lookup_setEntry known, if_neg same])

theorem Follows.of_extends {before after : HandleTable α} (h : before.Extends after)
    (index : UInt32) : Follows index before after none := by
  rcases h index with same | ⟨unknown, vacant⟩
  · exact .of_lookup same
  · refine ⟨?_, by simp, ?_⟩
    · simp [nextGeneration, unknown, vacant, TableEntry.ended]
    · simp [HandleTable.inUse, vacant]

theorem Follows.trans {index : UInt32} {a b c : HandleTable α} {issued : Option Handle}
    (first : Follows index a b none) (second : Follows index b c issued) :
    Follows index a c issued := by
  have next : b.nextGeneration index = a.nextGeneration index := by simpa using first.next
  refine ⟨next ▸ second.next, next ▸ second.generation, fun used => ?_⟩
  rcases second.inUse used with used' | issued'
  · exact .inl (by simpa using first.inUse used')
  · exact .inr issued'

theorem Follows.occupy (taken : UInt32) (address : α) (table : HandleTable α) (index : UInt32) :
    Follows index table (occupy taken address table).state
      (occupy taken address table).answer.toOption := by
  rcases h : HandleTable.occupy taken address table with ⟨stop | handle, after, events⟩
  · rw [occupy_eq_error h]
    exact .of_lookup rfl
  · obtain ⟨generation, vacant, rfl, entries⟩ := occupy_eq_ok h
    have look : ∀ other, after.lookup other =
        if other = taken then some ⟨generation, some address⟩ else table.lookup other := by
      intro other
      rw [← lookup_setEntry vacant]
      simp only [lookup, entries]
    by_cases same : index = taken
    · subst same
      exact ⟨by simp [nextGeneration, look, vacant, TableEntry.ended, Except.toOption],
        by simp [nextGeneration, vacant, TableEntry.ended, Except.toOption],
        by simp [Except.toOption]⟩
    · have other : taken ≠ index := fun h => same h.symm
      exact ⟨by simp [nextGeneration, look, same, other, Except.toOption],
        by simp [other, Except.toOption],
        by simp [HandleTable.inUse, look, same, other, Except.toOption]⟩

/-- The law of one operation. -/
theorem follows_perform (table : HandleTable α) (operation : TableOperation α) (index : UInt32) :
    Follows index table (table.perform operation) (table.issue? operation) := by
  cases operation with
  | register address =>
    rw [perform, issue?]
    rcases register_cases address table with full | ⟨taken, start, run, more⟩
    · rw [full]
      exact .of_lookup rfl
    · rw [run]
      exact (Follows.of_extends more index).trans (.occupy taken address start index)
  | relocate handle address =>
    show Follows index table (relocate handle address table).state none
    rw [relocate]
    split
    · next live =>
      obtain ⟨old, known⟩ := lookup_of_isLive live
      exact .of_setEntry known ⟨handle.generation, some address⟩ rfl (fun _ => rfl) index
    · exact .of_lookup rfl
  | invalidate handle =>
    show Follows index table (invalidate handle table).state none
    rw [invalidate]
    split
    · next live =>
      obtain ⟨old, known⟩ := lookup_of_isLive live
      have ended := Follows.of_setEntry known ⟨handle.generation + 1, none⟩ rfl
        (fun h => by cases h) index
      simp only
      split <;> exact ⟨ended.next, ended.generation, ended.inUse⟩
    · exact .of_lookup rfl
  | invalidateAll =>
    show Follows index table table.invalidateAll none
    refine ⟨?_, by simp, ?_⟩
    · simp only [nextGeneration, lookup_invalidateAll]
      rcases table.lookup index with _ | ⟨generation, _ | address⟩ <;> simp [TableEntry.ended]
    · simp only [HandleTable.inUse, lookup_invalidateAll]
      rcases table.lookup index with _ | ⟨generation, _ | address⟩ <;> simp [TableEntry.ended]

/-! ## 3. What a run does -/

theorem issues_cons (table : HandleTable α) (index : UInt32) (operation : TableOperation α)
    (rest : List (TableOperation α)) :
    table.issues index (operation :: rest) =
      (if (table.issue? operation).any (·.index = index) then 1 else 0) +
        (table.perform operation).issues index rest := by
  simp only [issues, issued, List.filter_append, List.length_append]
  cases table.issue? operation with
  | none => simp
  | some handle => by_cases same : handle.index = index <;> simp [same]

theorem run_append (table : HandleTable α) (past later : List (TableOperation α)) :
    table.run (past ++ later) = (table.run past).run later :=
  List.foldl_append

theorem issued_append (table : HandleTable α) (past later : List (TableOperation α)) :
    table.issued (past ++ later) = table.issued past ++ (table.run past).issued later := by
  induction past generalizing table with
  | nil => rfl
  | cons operation rest ih =>
    rw [List.cons_append, issued, issued, ih, List.append_assoc]
    rfl

theorem issues_append (table : HandleTable α) (index : UInt32)
    (past later : List (TableOperation α)) :
    table.issues index (past ++ later) =
      table.issues index past + (table.run past).issues index later := by
  simp only [issues, issued_append, List.filter_append, List.length_append]

/-- A run moves the next generation of an index as often as it issues the index. -/
theorem nextGeneration_run (table : HandleTable α) (index : UInt32)
    (operations : List (TableOperation α)) :
    (table.run operations).nextGeneration index =
      table.nextGeneration index + UInt32.ofNat (table.issues index operations) := by
  induction operations generalizing table with
  | nil => simp [run, issues, issued]
  | cons operation rest ih =>
    have step := (follows_perform table operation index).next
    show ((table.perform operation).run rest).nextGeneration index = _
    rw [ih, step, issues_cons, UInt32.ofNat_add, UInt32.add_assoc]
    congr 2
    split <;> rfl

theorem inUse_of_inUse_run {table : HandleTable α} {index : UInt32}
    {operations : List (TableOperation α)} (none : table.issues index operations = 0)
    (used : (table.run operations).inUse index = true) : table.inUse index = true := by
  induction operations generalizing table with
  | nil => exact used
  | cons operation rest ih =>
    rw [issues_cons] at none
    have used' := ih (by omega) used
    rcases (follows_perform table operation index).inUse used' with before | issued
    · exact before
    · simp [issued] at none

/-- The handles issued for one index, in order: one generation after the other. -/
theorem issued_at_index (table : HandleTable α) (index : UInt32)
    (operations : List (TableOperation α)) :
    (table.issued operations).filter (·.index = index) =
      (List.range (table.issues index operations)).map
        fun n => ⟨index, table.nextGeneration index + UInt32.ofNat n⟩ := by
  induction operations generalizing table with
  | nil => rfl
  | cons operation rest ih =>
    have step := follows_perform table operation index
    rw [issued, List.filter_append, ih, issues_cons, step.next]
    cases issue : table.issue? operation with
    | none => simp
    | some handle =>
      by_cases same : handle.index = index
      · -- The rest is issued from one generation later on, so its positions move by one.
        have generation := step.generation handle issue same
        have whole : handle = ⟨index, table.nextGeneration index⟩ := by
          cases handle
          exact congr (congrArg Handle.mk same) generation
        simp only [Option.any_some, same, decide_true, if_true, Option.toList_some,
          List.filter_cons, List.filter_nil, Nat.add_comm 1, List.range_succ_eq_map, List.map_cons,
          List.map_map, List.singleton_append]
        rw [whole]
        congr 1
        · simp
        · refine List.map_congr_left fun n _ => ?_
          show Handle.mk index (table.nextGeneration index + _ + UInt32.ofNat n) = _
          rw [UInt32.add_assoc]
          exact congrArg _ (congrArg _ (by
            rw [Nat.succ_eq_add_one, Nat.add_comm, UInt32.ofNat_add]
            rfl))
      · simp [same]

/-- Adding to a generation gives it back exactly if the number added is a multiple of 2 ^ 32. -/
theorem add_ofNat_eq_self_iff (generation : UInt32) (n : Nat) :
    generation + UInt32.ofNat n = generation ↔ 2 ^ 32 ∣ n := by
  have small := generation.toNat_lt
  rw [← UInt32.toNat_inj, UInt32.toNat_add, UInt32.toNat_ofNat']
  omega

/-- The generations of one index differ as long as there are no more of them than 2 ^ 32. -/
theorem nodup_generations_iff (index first : UInt32) (count : Nat) :
    ((List.range count).map fun n => Handle.mk index (first + UInt32.ofNat n)).Nodup ↔
      count ≤ 2 ^ 32 := by
  constructor
  · intro differ
    -- One more, and the first is there again.
    refine Nat.le_of_not_lt fun more => ?_
    have apart := List.pairwise_iff_getElem.mp differ 0 (2 ^ 32) (by simp; omega) (by simp; omega)
      (by decide)
    simp at apart
  · intro few
    refine List.pairwise_map.mpr (List.pairwise_lt_range.imp_of_mem fun _ high less same => ?_)
    have bound := List.mem_range.mp high
    have sum := congrArg UInt32.toNat (Handle.mk.inj same).2
    rw [UInt32.toNat_add, UInt32.toNat_add, UInt32.toNat_ofNat', UInt32.toNat_ofNat'] at sum
    have := first.toNat_lt
    omega

/-- Handles differ if those of each index do. -/
theorem nodup_of_filter {handles : List Handle}
    (h : ∀ index, (handles.filter (·.index = index)).Nodup) : handles.Nodup := by
  induction handles with
  | nil => exact .nil
  | cons handle rest ih =>
    refine List.nodup_cons.mpr ⟨fun again => ?_, ih fun index => ?_⟩
    · have own := h handle.index
      rw [List.filter_cons_of_pos (by simp)] at own
      exact (List.nodup_cons.mp own).1 (List.mem_filter.mpr ⟨again, by simp⟩)
    · exact (h index).sublist ((List.sublist_cons_self handle rest).filter _)

theorem nextGeneration_register {table : HandleTable α} {address : α} {handle : Handle}
    (issued : (register address table).answer = .ok handle) :
    (register address table).state.nextGeneration handle.index = handle.generation + 1 := by
  have step := follows_perform table (.register address) handle.index
  have issue : table.issue? (.register address) = some handle := by
    show (register address table).answer.toOption = _
    rw [issued]
    rfl
  rw [issue] at step
  have next := step.next
  simp only [Option.any_some, decide_true, if_true] at next
  rw [step.generation handle rfl rfl]
  exact next

theorem isLive_run_iff {table : HandleTable α} {address : α} {handle : Handle}
    (issued : (register address table).answer = .ok handle)
    (rest : List (TableOperation α)) :
    ((register address table).state.run rest).isLive handle = true ↔
      ((register address table).state.run rest).inUse handle.index = true ∧
        2 ^ 32 ∣ (register address table).state.issues handle.index rest := by
  rw [isLive_iff_next, nextGeneration_run, nextGeneration_register issued, add_ofNat_eq_self_iff]

/-- A handle that is dead at some point stays dead as long as its index was issued fewer than
2 ^ 32 times since the handle was. -/
theorem dead_of_few_issues {table : HandleTable α} {address : α} {handle : Handle}
    (issued : (register address table).answer = .ok handle) (past later : List (TableOperation α))
    (dead : ((register address table).state.run past).isLive handle = false)
    (few : (register address table).state.issues handle.index (past ++ later) < 2 ^ 32) :
    ((register address table).state.run (past ++ later)).isLive handle = false := by
  -- Were it live, its index would not have been issued at all, so not ended and taken again.
  refine Bool.eq_false_iff.mpr fun live => ?_
  have split := issues_append (register address table).state handle.index past later
  obtain ⟨used, multiple⟩ := (isLive_run_iff issued _).mp live
  have none : (register address table).state.issues handle.index (past ++ later) = 0 :=
    Nat.eq_zero_of_dvd_of_lt multiple few
  rw [run_append] at used
  have used' := inUse_of_inUse_run (by omega) used
  have live' := (isLive_run_iff issued past).mpr ⟨used', by
    rw [show issues _ _ past = 0 by omega]
    exact Nat.dvd_zero _⟩
  rw [dead] at live'
  cases live'

end GenerationLemmas

open GenerationLemmas

/-! ## 4. Results -/

/-- What is true of handles for all runs, from whichever table they start. The handles that a run
issues differ exactly if it issues no index more than 2 ^ 32 times. A handle is live at a later
point exactly if its index is in use and was issued a multiple of 2 ^ 32 times since. Once it is dead
it stays so as long as its index was issued fewer than 2 ^ 32 times since. -/
theorem reissued_iff (table : HandleTable α) (operations : List (TableOperation α)) :
    ((table.issued operations).Nodup ↔ ∀ index, table.issues index operations ≤ 2 ^ 32) ∧
      ∀ address handle, (register address table).answer = .ok handle →
        (((register address table).state.run operations).isLive handle = true ↔
          ((register address table).state.run operations).inUse handle.index = true ∧
            2 ^ 32 ∣ (register address table).state.issues handle.index operations) ∧
        ∀ later, ((register address table).state.run operations).isLive handle = false →
          (register address table).state.issues handle.index (operations ++ later) < 2 ^ 32 →
          ((register address table).state.run (operations ++ later)).isLive handle = false := by
  refine ⟨⟨fun differ index => ?_, fun few => nodup_of_filter fun index => ?_⟩,
    fun address handle issued => ⟨isLive_run_iff issued operations,
      fun later dead few => dead_of_few_issues issued operations later dead few⟩⟩
  · have own : ((table.issued operations).filter (·.index = index)).Nodup :=
      differ.sublist List.filter_sublist
    rw [issued_at_index] at own
    exact (nodup_generations_iff ..).mp own
  · rw [issued_at_index]
    exact (nodup_generations_iff ..).mpr (few index)

/-- A handle that was invalidated while its index is in use again, and after that. -/
theorem reissued_small :
    let start : HandleTable Nat := empty none
    let operations := [.invalidate ⟨1, 0⟩, .register 8]
    let later := [.invalidate ⟨1, 1⟩, .register 9]
    (register 7 start).answer = .ok ⟨1, 0⟩ ∧
      ((register 7 start).state.run operations).inUse 1 = true ∧
      ((register 7 start).state.run operations).isLive ⟨1, 0⟩ = false ∧
      ((register 7 start).state.run (operations ++ later)).isLive ⟨1, 0⟩ = false :=
  have law := (reissued_iff (empty none : HandleTable Nat) [.invalidate ⟨1, 0⟩, .register 8]).2
    7 ⟨1, 0⟩ rfl
  have dead := Bool.eq_false_iff.mpr fun live => absurd (law.1.mp live).2 (by decide)
  ⟨rfl, rfl, dead, law.2 [.invalidate ⟨1, 1⟩, .register 9] dead (by decide)⟩

namespace GenerationLemmas

/-- Issues and ends the handle of index 1 for every generation from `first` on. -/
def cycles (first : Nat) : (count : Nat) → List (TableOperation Nat)
  | 0 => []
  | count + 1 =>
    [.register 0, .invalidate ⟨1, UInt32.ofNat first⟩] ++ cycles (first + 1) count

/-- The table with one index, which is free and of the given generation. -/
def vacated (generation : UInt32) : HandleTable Nat := ⟨#[⟨generation, none⟩], [1], 0, 1⟩

theorem register_vacated (generation : UInt32) :
    register 0 (vacated generation) =
      ⟨.ok ⟨1, generation⟩, ⟨#[⟨generation, some 0⟩], [], 1, 1⟩, []⟩ := rfl

theorem invalidate_occupied (generation : UInt32) :
    (invalidate ⟨1, generation⟩ (⟨#[⟨generation, some 0⟩], [], 1, 1⟩ : HandleTable Nat)).state =
      vacated (generation + 1) := by
  have live : (⟨#[⟨generation, some 0⟩], [], 1, 1⟩ : HandleTable Nat).isLive ⟨1, generation⟩ =
      true := isLive_iff.mpr ⟨0, resolve_eq_some_iff.mpr rfl⟩
  rw [invalidate, if_pos live]
  rfl

theorem run_cycles (first count : Nat) :
    (vacated (UInt32.ofNat first)).run (cycles first count) =
      vacated (UInt32.ofNat (first + count)) := by
  induction count generalizing first with
  | zero => rfl
  | succ count ih =>
    show ((invalidate ⟨1, UInt32.ofNat first⟩
      (register 0 (vacated (UInt32.ofNat first))).state).state).run (cycles (first + 1) count) = _
    rw [register_vacated, invalidate_occupied]
    have next : UInt32.ofNat first + 1 = UInt32.ofNat (first + 1) := by
      rw [UInt32.ofNat_add]
      rfl
    rw [next, ih, Nat.add_right_comm, Nat.add_assoc]

/-- After 2 ^ 32 generations, index 1 is issued with generation 0 again. -/
theorem run_around :
    ((empty (some 1) : HandleTable Nat).run [.register 0, .invalidate ⟨1, 0⟩]).run
      (cycles 1 0xffffffff) = vacated 0 := by
  have start : (empty (some 1) : HandleTable Nat).run [.register 0, .invalidate ⟨1, 0⟩] =
      vacated (UInt32.ofNat 1) := rfl
  rw [start, run_cycles]
  rfl

end GenerationLemmas

/-- Without a bound on the number of issues, a handle that was invalidated resolves again, and two
registrations of one run return the same handle. -/
theorem revived_after_generation_wraps :
    (¬ ∀ (max : Option UInt32) (past later : List (TableOperation Nat)) (handle : Handle),
      handle ∈ (empty max).issued past → ((empty max).run past).isLive handle = false →
        ((empty max).run (past ++ later)).isLive handle = false) ∧
      ¬ ∀ (max : Option UInt32) (operations : List (TableOperation Nat)),
        ((empty max).issued operations).Nodup := by
  have first : (empty (some 1) : HandleTable Nat).issued [.register 0, .invalidate ⟨1, 0⟩] =
      [⟨1, 0⟩] := rfl
  have again := run_around
  constructor
  · intro law
    have dead := law (some 1) [.register 0, .invalidate ⟨1, 0⟩]
      (cycles 1 0xffffffff ++ [.register 0]) ⟨1, 0⟩ (by rw [first]; exact List.mem_singleton_self _)
      rfl
    rw [run_append, run_append, again] at dead
    cases dead
  · intro law
    have differ := law (some 1) ([.register 0, .invalidate ⟨1, 0⟩] ++
      (cycles 1 0xffffffff ++ [.register 0]))
    rw [issued_append, issued_append, again, first] at differ
    have issue : (vacated 0).issued [.register 0] = [⟨1, 0⟩] := rfl
    rw [issue] at differ
    simp at differ

end HandleTable

end HandleHeap
