import HandleHeap.Proofs.Arena.Epochs

/-!
# Reallocating after any history

What was asked of an arena is told beside it: the blocks that it handed out since the last reset and
before, how many bytes were asked for since, and how often it was reset (`ArenaHistory`). The blocks
of the first kind are held and end at the offset or before it, those of the second kind are of an
epoch that is over (`Known`).

* `known_run`: so it is after any operations, whatever was written and whatever failed.
* `reallocate_exact`: when reallocating is refused, what the fresh block reads as, and that nothing
  else changes, for an old block of either kind.
-/

namespace HandleHeap

/-! ## 1. What was asked for -/

/-- How many bytes an operation asks for, padding included. -/
def ArenaOperation.asks : ArenaOperation → Nat
  | .allocate size | .reallocate _ size => (padded? size).getD 0
  | _ => 0

/-- An arena with what was asked of it. -/
structure ArenaHistory where
  arena : Arena
  /-- The blocks handed out since the last reset. -/
  current : List Block
  /-- The blocks handed out before it. -/
  earlier : List Block
  /-- How many bytes were asked for since the last reset, whether they were given or not. -/
  requested : Nat
  resets : Nat

namespace ArenaHistory

open Arena

variable {history : ArenaHistory}

/-- An arena of which nothing was asked so far. -/
def start (arena : Arena) : ArenaHistory := ⟨arena, [], [], 0, 0⟩

/-- What was asked for, with one more operation. -/
def step (history : ArenaHistory) (operation : ArenaOperation) : ArenaHistory :=
  let arena := history.arena.perform operation
  match operation with
  | .reset => ⟨arena, [], history.current ++ history.earlier, 0, history.resets + 1⟩
  | _ =>
    { history with
      arena
      current := (history.arena.given? operation).toList ++ history.current
      requested := history.requested + operation.asks }

def run (history : ArenaHistory) (operations : List ArenaOperation) : ArenaHistory :=
  operations.foldl step history

/-! ## 2. What is known of the blocks -/

/-- What is known of the blocks that a standing arena handed out. -/
structure Known (history : ArenaHistory) : Prop where
  epoch : history.arena.epoch = UInt32.ofNat history.resets
  held : ∀ block ∈ history.current, history.arena.holds block = true
  ended : ∀ block ∈ history.earlier, ∃ n < history.resets, block.epoch = UInt32.ofNat n
  /-- As long as what was asked for does not take the offset around 2 ^ 64. -/
  below : history.requested < sizeLimit → history.arena.used ≤ history.requested ∧
    ∀ block ∈ history.current, block.reservedEnd ≤ history.arena.used

theorem known_start {grants : Nat → Bool} {capacity : Nat} {arena : Arena}
    (made : (Arena.new grants capacity).answer = .ok arena) : (start arena).Known := by
  rw [eq_of_new made]
  refine ⟨rfl, fun _ none => ?_, fun _ none => ?_, fun _ => ⟨Nat.le_refl _, fun _ none => ?_⟩⟩ <;>
    cases none

theorem asked_le_padded (arena : Arena) (size : Nat) : arena.asked size ≤ (padded? size).getD 0 := by
  rcases Nat.eq_zero_or_pos (arena.asked size) with none | some
  · rw [none]
    exact Nat.zero_le _
  · rw [(asked_eq_of_pos some).1]
    exact Nat.le_refl _

/-- A change that hands out nothing and leaves the offset where it is. -/
theorem Known.unasked (known : history.Known) {arena : Arena}
    (same : SameEpoch history.arena arena) (used : arena.used = history.arena.used) :
    Known { history with arena } where
  epoch := same.epoch.trans known.epoch
  held block member := (same.holds_eq block).trans (known.held block member)
  ended := known.ended
  below few := by
    show arena.used ≤ _ ∧ ∀ block ∈ history.current, block.reservedEnd ≤ arena.used
    rw [used]
    exact known.below few

theorem used_request {ε : Type} {size : Nat} {action : Action ε Arena Block}
    (requests : Requests size action) (arena : Arena) :
    (action arena).state.used = (allocate size arena).state.used := by
  cases answer : (action arena).answer with
  | error e => rw [requests.error answer]
  | ok fresh => exact (requests.ok answer).2.used

/-- A request moves the offset by no more than it asks for, and its block ends there. -/
theorem Known.request (known : history.Known) {ε : Type} {size : Nat}
    {action : Action ε Arena Block} (requests : Requests size action) :
    Known { history with
      arena := (action history.arena).state
      current := (action history.arena).answer.toOption.toList ++ history.current
      requested := history.requested + (padded? size).getD 0 } := by
  have same := requests.sameEpoch history.arena
  have given {block : Block} (member : block ∈ (action history.arena).answer.toOption.toList) :
      (action history.arena).answer = .ok block := by
    cases answer : (action history.arena).answer <;> rw [answer] at member
    · cases member
    · cases List.mem_singleton.mp member
      rfl
  refine ⟨same.epoch.trans known.epoch, fun block member => ?_, known.ended, fun few => ?_⟩
  · rcases List.mem_append.mp member with fresh | old
    · exact requests.holds (given fresh)
    · exact (same.holds_eq block).trans (known.held block old)
  · dsimp only at few ⊢
    have asked := asked_le_padded history.arena size
    obtain ⟨low, ends⟩ := known.below (by omega)
    have moved := used_request requests history.arena
    rw [ReservationLemmas.state_allocate_of_lt _ _ (by omega)] at moved
    dsimp only at moved
    refine ⟨by omega, fun block member => ?_⟩
    rcases List.mem_append.mp member with fresh | old
    · rw [moved, (reservedEnd_of_allocate (requests.ok (given fresh)).1).2]
    · exact (ends block old).trans (by omega)

/-- Resetting ends the epoch of all blocks. -/
theorem Known.reset (known : history.Known) : (history.step .reset).Known where
  epoch := by
    show history.arena.epoch + 1 = UInt32.ofNat (history.resets + 1)
    rw [known.epoch, UInt32.ofNat_add]
    rfl
  held _ none := by cases none
  ended block member := by
    rcases List.mem_append.mp member with last | before
    · have own := (holds_iff.mp (known.held block last)).2.1
      exact ⟨history.resets, Nat.lt_succ_self _, own.trans known.epoch⟩
    · obtain ⟨n, less, own⟩ := known.ended block before
      exact ⟨n, Nat.lt_succ_of_lt less, own⟩
  below _ := ⟨Nat.le_refl _, fun _ none => by cases none⟩

/-- An operation that leaves the arena standing finds it so. -/
theorem initialized_of_perform {arena : Arena} {operation : ArenaOperation}
    (ready : (arena.perform operation).initialized = true) : arena.initialized = true := by
  by_contra torn
  have torn' : (arena.run [operation]).initialized = false :=
    torn_run (Bool.eq_false_iff.mpr torn) [operation]
  exact Bool.false_ne_true (torn'.symm.trans ready)

/-- Each operation keeps what is known, unless it tears the arena down. -/
theorem Known.step (known : history.Known) {operation : ArenaOperation}
    (ready : (history.step operation).arena.initialized = true) :
    (history.step operation).Known := by
  cases operation with
  | allocate size => exact known.request (requests_allocate size)
  | reallocate old size => exact known.request (requests_reallocate_option old size)
  | free block => exact known
  | overwrite block start source =>
    have changed := onlyIn_overwrite history.arena block start source
    exact known.unasked changed.sameEpoch changed.used
  | copy source target len =>
    have changed := onlyIn_copy history.arena source target len
    exact known.unasked changed.sameEpoch changed.used
  | reset => exact known.reset
  | teardown =>
    have torn : (history.arena.run [.teardown]).initialized = false :=
      torn_of_teardown (List.mem_singleton.mpr rfl) history.arena
    exact absurd (torn.symm.trans ready) Bool.false_ne_true

/-- What is known of the blocks holds after any operations, as long as the arena stands. -/
theorem known_run (operations : List ArenaOperation)
    (known : history.arena.initialized = true → history.Known)
    (ready : (history.run operations).arena.initialized = true) :
    (history.run operations).Known := by
  induction operations generalizing history with
  | nil => exact known ready
  | cons operation later ih =>
    refine ih (fun ready' => ?_) ready
    have before : history.arena.initialized = true := by
      cases operation <;> exact initialized_of_perform ready'
    exact (known before).step ready'

/-! ## 3. Reallocating -/

/-- What reallocating a block comes to, after what was asked before. -/
structure Reallocated (history : ArenaHistory) (old : Block) (size : Nat)
    (after : Outcome Unit Arena Block) : Prop where
  refused_iff : after.answer = .error () ↔
    size = 0 ∨ ∃ cause, (allocate size history.arena).answer = .error cause
  idle : size = 0 → after.state = history.arena
  /-- A request that is refused moves the offset at most. -/
  refused : after.answer = .error () →
    after.state = { history.arena with used := after.state.used }
  /-- One that is served changes bytes of the fresh block besides. -/
  served : ∀ {fresh}, after.answer = .ok fresh →
    OnlyIn fresh { history.arena with used := after.state.used } after.state
  len : ∀ {fresh}, after.answer = .ok fresh → fresh.len = size
  apart : ∀ {fresh}, after.answer = .ok fresh →
    ∀ block ∈ history.current, block.Disjoint fresh
  moved : ∀ {fresh}, after.answer = .ok fresh → old ∈ history.current →
    ∃ bytes, history.arena.bytes? old = some bytes ∧
      after.state.bytes? fresh = some (fitted bytes size)
  zeroed : ∀ {fresh}, after.answer = .ok fresh → old ∈ history.earlier →
    after.state.bytes? fresh = some (List.replicate size 0)
  kept : ∀ block, block ∈ history.current ∨ block ∈ history.earlier →
    after.state.bytes? block = history.arena.bytes? block

/-- A block of an epoch that is over is refused, as long as there were fewer than 2 ^ 32 resets. -/
theorem Known.refuses (known : history.Known) (few : history.resets < 2 ^ 32) {block : Block}
    (earlier : block ∈ history.earlier) : history.arena.holds block = false := by
  obtain ⟨n, less, own⟩ := known.ended block earlier
  refine Bool.eq_false_iff.mpr fun held => ?_
  have same := (holds_iff.mp held).2.1
  rw [own, known.epoch, ← UInt32.toNat_inj, UInt32.toNat_ofNat', UInt32.toNat_ofNat'] at same
  omega

/-- Blocks handed out since the last reset end where the next one starts, at the latest. -/
theorem Known.disjoint (known : history.Known) (few : history.requested < sizeLimit) {size : Nat}
    {fresh block : Block} (given : (allocate size history.arena).answer = .ok fresh)
    (current : block ∈ history.current) : block.Disjoint fresh := by
  refine .inl ?_
  rw [(reservedEnd_of_allocate given).1]
  exact (known.below few).2 block current

theorem reallocated_of_error {size : Nat} {cause : AllocError} (old : Block)
    (failed : (allocate size history.arena).answer = .error cause) :
    history.Reallocated old size (reallocate (some old) size history.arena) := by
  obtain ⟨stored, holds⟩ := allocate_same history.arena size
  rw [reallocate_of_error _ failed]
  refine ⟨iff_of_true rfl (.inr ⟨cause, failed⟩), fun none => ?_, fun _ => ?_, nofun, nofun, nofun,
    nofun, nofun, fun block _ => ?_⟩
  · subst none
    obtain ⟨cause, idle⟩ := allocate_zero history.arena
    exact congrArg Outcome.state idle
  · obtain ⟨used, moved⟩ := exists_state_allocate history.arena size
    show (allocate size history.arena).state = _
    rw [moved]
  · show (allocate size history.arena).state.bytes? block = _
    rw [bytes?, stored, holds]
    rfl

theorem reallocated_of_ok (known : history.Known) (few : history.requested < sizeLimit)
    (rewound : history.resets < 2 ^ 32) {size : Nat} {fresh : Block} (old : Block)
    (given : (allocate size history.arena).answer = .ok fresh) :
    history.Reallocated old size (reallocate (some old) size history.arena) := by
  obtain ⟨len, held⟩ := holds_of_allocate given
  have nonzero := (allocate?_of_ok given).1
  have answered : (reallocate (some old) size history.arena).answer = .ok fresh := by
    rw [reallocate_of_ok old given held]
  have changed := ((requests_reallocate old size).ok answered).2
  have taken : (allocate size history.arena).state =
      { history.arena with used := (reallocate (some old) size history.arena).state.used } := by
    obtain ⟨used, moved⟩ := exists_state_allocate history.arena size
    rw [changed.used, moved]
  have only {other : Block} (same : (reallocate (some old) size history.arena).answer = .ok other) :
      other = fresh := Except.ok.inj (same.symm.trans answered)
  have apart {block : Block} (current : block ∈ history.current) : block.Disjoint fresh :=
    known.disjoint few given current
  constructor
  case refused_iff =>
    rw [answered, given]
    simp [nonzero]
  case idle => exact fun none => absurd none nonzero
  case refused => exact fun failed => nomatch failed.symm.trans answered
  case served =>
    intro other same
    cases only same
    rw [← taken]
    exact changed
  case len => exact fun same => only same ▸ len
  case apart => exact fun same block current => only same ▸ apart current
  case moved =>
    intro other same current
    cases only same
    have held' := known.held old current
    exact ⟨_, bytes?_of_holds held', bytes?_reallocate_of_held given held' (apart current)⟩
  case zeroed =>
    intro other same earlier
    cases only same
    exact bytes?_reallocate_of_refused given (known.refuses rewound earlier)
  case kept =>
    rintro block (current | earlier)
    · rw [changed.bytes?_eq (apart current), bytes?, (allocate_same ..).1, (allocate_same ..).2]
      rfl
    · have out := known.refuses rewound earlier
      have out' := (changed.holds_eq block).trans ((allocate_same ..).2 block)
      rw [bytes?, bytes?, out', out]
      rfl

/-- Reallocating a block that an arena handed out is refused exactly if no bytes were asked for, or
a request of the arena itself would be. Else the fresh block lies apart from all that were handed
out since the last reset and reads as the old one, cut or followed by zeros, or as zeros if the old
one was handed out before the last reset. No other byte changes. -/
theorem reallocate_exact {grants : Nat → Bool} {capacity : Nat} {arena : Arena}
    (made : (Arena.new grants capacity).answer = .ok arena) (operations : List ArenaOperation)
    (few : ((start arena).run operations).requested < sizeLimit)
    (rewound : ((start arena).run operations).resets < 2 ^ 32) (old : Block) (size : Nat) :
    ((start arena).run operations).Reallocated old size
      (reallocate (some old) size ((start arena).run operations).arena) := by
  cases given : (allocate size ((start arena).run operations).arena).answer with
  | error cause => exact reallocated_of_error old given
  | ok fresh =>
    obtain ⟨ready, -, -⟩ := holds_iff.mp (holds_of_allocate given).2
    rw [(sameEpoch_allocate _ size).initialized] at ready
    exact reallocated_of_ok (known_run operations (fun _ => known_start made) ready) few rewound old
      given

/-- A block of 5 bytes that was handed out before the last reset, and one of 8 bytes since, each
reallocated in memory that is not zero. -/
theorem reallocate_small :
    let arena : Arena := ⟨.empty, 64, 0, 0, true⟩
    let history := (start arena).run
      [.allocate 5, .allocate 40, .overwrite ⟨16, 40, 0⟩ 0 (.replicate 40 7), .reset, .allocate 8,
        .overwrite ⟨0, 8, 1⟩ 0 [1, 2, 3, 4, 5, 6, 7, 8]]
    ⟨0, 8, 1⟩ ∈ history.current ∧ ⟨0, 5, 0⟩ ∈ history.earlier ∧
      history.Reallocated ⟨0, 8, 1⟩ 12 (reallocate (some ⟨0, 8, 1⟩) 12 history.arena) ∧
      history.Reallocated ⟨0, 5, 0⟩ 12 (reallocate (some ⟨0, 5, 0⟩) 12 history.arena) := by
  have made : (Arena.new (fun _ => true) 64).answer = .ok ⟨.empty, 64, 0, 0, true⟩ := rfl
  exact ⟨by decide, by decide, reallocate_exact made _ (by decide) (by decide) _ 12,
    reallocate_exact made _ (by decide) (by decide) _ 12⟩

end ArenaHistory

end HandleHeap
