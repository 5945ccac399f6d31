import HandleHeap.Proofs.Action
import HandleHeap.Proofs.Arena.Reallocation
import HandleHeap.Proofs.Handle.Generations

/-!
# How long a block stays refused

A block is one of its epoch, and rewinding the arena starts another. An epoch is a 32-bit word, so
the one that a block is of comes back after 2 ^ 32 resets.

* `ArenaOperation`, `Arena.run`: what may be done to an arena, and what a run of it leaves.
* `holds_run_iff`: what a run leaves of a block that the arena holds.
* `refuses_iff`: a block that was handed out is refused at a later point exactly if the arena was
  torn down, or the number of resets since is no multiple of 2 ^ 32.
* `readable_after_epochs_wrap`: so a block can be read again that was refused.
-/

namespace HandleHeap

/-- One operation on an arena. The blocks that it names may be any, also those of another arena. -/
inductive ArenaOperation
  | allocate (size : Nat)
  | reallocate (old : Option Block) (size : Nat)
  | free (block : Block)
  | overwrite (block : Block) (start : Nat) (source : List UInt8)
  | copy (source target : Block) (len : Nat)
  | reset
  | teardown
  deriving DecidableEq

namespace Arena

variable {arena : Arena} {block : Block}

/-! ## 1. Runs -/

/-- The arena after an operation, whatever it answered. -/
def perform (arena : Arena) : ArenaOperation → Arena
  | .allocate size => (allocate size arena).state
  | .reallocate old size => (reallocate old size arena).state
  | .free block => free block arena
  | .overwrite block start source => arena.overwrite block start source
  | .copy source target len => (arena.copy source target len).2
  | .reset => (reset (ε := AllocError) arena).state
  | .teardown => (teardown (ε := AllocError) arena).state

/-- The block that an operation hands out. -/
def given? (arena : Arena) : ArenaOperation → Option Block
  | .allocate size => (allocate size arena).answer.toOption
  | .reallocate old size => (reallocate old size arena).answer.toOption
  | _ => none

/-- The arena after operations in order. -/
def run (arena : Arena) (operations : List ArenaOperation) : Arena :=
  operations.foldl perform arena

theorem run_cons (arena : Arena) (operation : ArenaOperation) (later : List ArenaOperation) :
    arena.run (operation :: later) = (arena.perform operation).run later := rfl

/-- A block is refused: nothing is read of it, written to it, or copied from or to it. -/
structure Refuses (arena : Arena) (block : Block) : Prop where
  reads : arena.bytes? block = none
  writes : ∀ start source, arena.overwrite block start source = arena
  copiesFrom : ∀ target len, arena.copy block target len = (none, arena)
  copiesTo : ∀ source len, arena.copy source block len = (none, arena)

theorem refuses_iff_not_holds : arena.Refuses block ↔ arena.holds block = false := by
  constructor
  · intro refuses
    have reads := refuses.reads
    unfold bytes? at reads
    split at reads
    · cases reads
    · next out => exact Bool.eq_false_iff.mpr out
  · intro out
    have out' : ¬ arena.holds block = true := Bool.eq_false_iff.mp out
    refine ⟨if_neg out', fun start source => if_neg out', fun target len => ?_,
      fun source len => ?_⟩
    · rw [copy, out, Bool.false_and]
      rfl
    · rw [copy, out, Bool.and_false]
      rfl

/-! ## 2. One operation -/

/-- The arena is as large, and of the same epoch. -/
structure SameEpoch (before after : Arena) : Prop where
  capacity : after.capacity = before.capacity
  epoch : after.epoch = before.epoch
  initialized : after.initialized = before.initialized

theorem SameEpoch.trans {a b c : Arena} (first : SameEpoch a b) (second : SameEpoch b c) :
    SameEpoch a c :=
  ⟨second.capacity.trans first.capacity, second.epoch.trans first.epoch,
    second.initialized.trans first.initialized⟩

theorem SameEpoch.holds_eq {before after : Arena} (same : SameEpoch before after)
    (block : Block) : after.holds block = before.holds block :=
  holds_congr same.capacity same.epoch same.initialized block

theorem OnlyIn.sameEpoch {before after : Arena} (changed : OnlyIn block before after) :
    SameEpoch before after :=
  ⟨changed.capacity, changed.epoch, changed.initialized⟩

theorem sameEpoch_allocate (arena : Arena) (size : Nat) :
    SameEpoch arena (allocate size arena).state := by
  obtain ⟨used, moved⟩ := exists_state_allocate arena size
  rw [moved]
  exact ⟨rfl, rfl, rfl⟩

/-- Without an old block, reallocating is asking for a block. -/
theorem requests_reallocate_none (size : Nat) : Requests size (reallocate none size) := by
  refine ⟨fun {arena e} failed => ?_, fun {arena fresh} moved => ?_⟩
  · cases given : (allocate size arena).answer with
    | error cause => rw [reallocate_of_error _ given]
    | ok block => exact (reallocate_none_of_ok given).2
  · cases given : (allocate size arena).answer with
    | error cause =>
      rw [reallocate_of_error _ given] at moved
      cases moved
    | ok block =>
      obtain ⟨answered, same⟩ := reallocate_none_of_ok given
      rw [answered] at moved
      cases Except.ok.inj moved
      exact ⟨rfl, same ▸ .refl ..⟩

theorem requests_reallocate_option (old : Option Block) (size : Nat) :
    Requests size (reallocate old size) := by
  cases old with
  | none => exact requests_reallocate_none size
  | some old => exact requests_reallocate old size

theorem Requests.sameEpoch {ε : Type} {size : Nat} {action : Action ε Arena Block}
    (requests : Requests size action) (arena : Arena) :
    SameEpoch arena (action arena).state := by
  have asked := sameEpoch_allocate arena size
  cases answer : (action arena).answer with
  | error e =>
    rw [requests.error answer]
    exact asked
  | ok fresh => exact asked.trans (requests.ok answer).2.sameEpoch

/-- A block that was given is held. -/
theorem Requests.holds {ε : Type} {size : Nat} {action : Action ε Arena Block}
    (requests : Requests size action) (given : (action arena).answer = .ok block) :
    (action arena).state.holds block = true := by
  obtain ⟨asked, changed⟩ := requests.ok given
  exact (changed.holds_eq block).trans (holds_of_allocate asked).2

/-- Only rewinding ends the epoch. -/
theorem sameEpoch_perform (arena : Arena) {operation : ArenaOperation}
    (stays : operation ≠ .reset) (stands : operation ≠ .teardown) :
    SameEpoch arena (arena.perform operation) := by
  cases operation with
  | allocate size => exact sameEpoch_allocate arena size
  | reallocate old size => exact (requests_reallocate_option old size).sameEpoch arena
  | free block => exact ⟨rfl, rfl, rfl⟩
  | overwrite block start source => exact (onlyIn_overwrite ..).sameEpoch
  | copy source target len => exact (onlyIn_copy ..).sameEpoch
  | reset => exact absurd rfl stays
  | teardown => exact absurd rfl stands

theorem holds_of_given {operation : ArenaOperation} (given : arena.given? operation = some block) :
    (arena.perform operation).holds block = true := by
  cases operation with
  | allocate size => exact (requests_allocate size).holds (toOption_eq_some_iff.mp given)
  | reallocate old size =>
    exact (requests_reallocate_option old size).holds (toOption_eq_some_iff.mp given)
  | _ => cases given

/-! ## 3. Runs of any length -/

/-- An arena that was torn down stays so. -/
theorem torn_run (torn : arena.initialized = false) (later : List ArenaOperation) :
    (arena.run later).initialized = false := by
  induction later generalizing arena with
  | nil => exact torn
  | cons operation later ih =>
    refine ih ?_
    by_cases stays : operation = .reset
    · subst stays
      exact torn
    by_cases stands : operation = .teardown
    · subst stands
      simp only [perform, teardown, torn, Bool.false_eq_true, if_false]
    · exact (sameEpoch_perform arena stays stands).initialized.trans torn

/-- Tearing down is for good. -/
theorem torn_of_teardown {later : List ArenaOperation} (torn : .teardown ∈ later) (arena : Arena) :
    (arena.run later).initialized = false := by
  induction later generalizing arena with
  | nil => cases torn
  | cons operation later ih =>
    by_cases now : operation = .teardown
    · subst now
      refine torn_run ?_ later
      show (teardown (ε := AllocError) arena).state.initialized = false
      unfold teardown
      split
      · rfl
      · next torn => exact Bool.eq_false_iff.mpr torn
    · exact ih ((List.mem_cons.mp torn).resolve_left (Ne.symm now)) _

/-- As long as the arena stands, each reset advances the epoch by one, around its 32 bits. -/
theorem epoch_run {later : List ArenaOperation} (stands : .teardown ∉ later) (arena : Arena) :
    (arena.run later).capacity = arena.capacity ∧
      (arena.run later).epoch = arena.epoch + UInt32.ofNat (later.count .reset) ∧
      (arena.run later).initialized = arena.initialized := by
  induction later generalizing arena with
  | nil => exact ⟨rfl, (UInt32.add_zero _).symm, rfl⟩
  | cons operation later ih =>
    obtain ⟨now, then'⟩ := not_or.mp (mt List.mem_cons.mpr stands)
    obtain ⟨capacity, epoch, initialized⟩ := ih then' (arena.perform operation)
    rw [run_cons, capacity, epoch, initialized]
    by_cases rewound : operation = .reset
    · subst rewound
      refine ⟨rfl, ?_, rfl⟩
      show arena.epoch + 1 + UInt32.ofNat (later.count .reset) = _
      rw [List.count_cons_self, UInt32.ofNat_add, UInt32.add_assoc, UInt32.add_comm 1]
      rfl
    · have same := sameEpoch_perform arena rewound (Ne.symm now)
      rw [List.count_cons_of_ne rewound, same.capacity, same.epoch, same.initialized]
      exact ⟨rfl, rfl, rfl⟩

/-- A block that is held stays held until the arena is rewound, and again whenever it was reset
2 ^ 32 times more. -/
theorem holds_run_iff (held : arena.holds block = true) (later : List ArenaOperation) :
    (arena.run later).holds block = true ↔
      .teardown ∉ later ∧ 2 ^ 32 ∣ later.count .reset := by
  obtain ⟨ready, own, inside⟩ := holds_iff.mp held
  by_cases torn : .teardown ∈ later
  · refine iff_of_false (fun held => ?_) fun both => both.1 torn
    exact Bool.false_ne_true ((torn_of_teardown torn arena).symm.trans (holds_iff.mp held).1)
  · obtain ⟨capacity, epoch, initialized⟩ := epoch_run torn arena
    rw [holds_iff, capacity, epoch, initialized, ← own, eq_comm (a := block.epoch),
      HandleTable.GenerationLemmas.add_ofNat_eq_self_iff]
    exact ⟨fun held => ⟨torn, held.2.1⟩, fun both => ⟨ready, both.2, inside⟩⟩

/-! ## 4. Results -/

/-- A block that an arena handed out is refused after a run exactly if the arena was torn down, or
the number of resets is no multiple of 2 ^ 32. -/
theorem refuses_iff {operation : ArenaOperation} (given : arena.given? operation = some block)
    (later : List ArenaOperation) :
    ((arena.perform operation).run later).Refuses block ↔
      .teardown ∈ later ∨ ¬ 2 ^ 32 ∣ later.count .reset := by
  rw [refuses_iff_not_holds, ← Bool.not_eq_true, holds_run_iff (holds_of_given given),
    not_and_or, not_not]

/-- A block of an arena of 64 bytes, after two resets with other blocks in between. -/
theorem refuses_small :
    let arena : Arena := ⟨.empty, 64, 0, 0, true⟩
    arena.given? (.allocate 5) = some ⟨0, 5, 0⟩ ∧
      ((arena.perform (.allocate 5)).run
        [.reset, .allocate 5, .overwrite ⟨0, 5, 1⟩ 0 [7], .reset]).Refuses ⟨0, 5, 0⟩ :=
  have given : (⟨.empty, 64, 0, 0, true⟩ : Arena).given? (.allocate 5) = some ⟨0, 5, 0⟩ := by decide
  ⟨given, (refuses_iff given _).mpr (.inr (by decide))⟩

/-- A block that was refused can be read again: 2 ^ 32 resets take the epoch back to its own. -/
theorem readable_after_epochs_wrap :
    ¬ ∀ (capacity : Nat) (arena : Arena) (operation : ArenaOperation) (block : Block)
        (later : List ArenaOperation), (Arena.new (fun _ => true) capacity).answer = .ok arena →
      arena.given? operation = some block → (.reset ∈ later ∨ .teardown ∈ later) →
        ((arena.perform operation).run later).Refuses block := by
  intro law
  have given : (⟨.empty, 64, 0, 0, true⟩ : Arena).given? (.allocate 5) = some ⟨0, 5, 0⟩ := by decide
  have rewound : .reset ∈ List.replicate (2 ^ 32) ArenaOperation.reset :=
    List.mem_replicate.mpr ⟨by decide, rfl⟩
  have refused := law 64 _ _ _ _ rfl given (.inl rewound)
  have stands : .teardown ∉ List.replicate (2 ^ 32) ArenaOperation.reset := by
    intro torn
    cases (List.mem_replicate.mp torn).2
  have held := (holds_run_iff (holds_of_given given) _).mpr
    ⟨stands, dvd_of_eq List.count_replicate_self.symm⟩
  exact Bool.false_ne_true ((refuses_iff_not_holds.mp refused).symm.trans held)

end Arena

end HandleHeap
