import HandleHeap.Proofs.Arena.Contents

/-!
# Blocks that do not overlap

A request moves the bump offset in one step, so what several callers do to an arena between two
resets is a list of sizes, in the order in which their steps take effect.

* `Arena.asked` is the padded size of a request that reaches the offset. `allocated` says all that a
  request can come to in terms of it (`Allocated`), and `state_allocate` and `allocate_eq_ok_iff`
  where it leaves the offset and when it is served.
* `grantsApart_iff`: the blocks handed out are aligned, inside the arena and apart, and the offset
  never falls, exactly if the padded sizes asked for do not take it to 2 ^ 64.
* `overlapping_after_offset_wraps`: without that bound the first block is handed out a second time.
-/

namespace HandleHeap.Arena

theorem sizeLimit_pos : 0 < sizeLimit := by decide

/-! ## One request -/

/-- The padded size of a request. One that is turned down before it reaches the bump offset asks
for nothing. -/
def asked (arena : Arena) (size : Nat) : Nat :=
  match padded? size with
  | none => 0
  | some padded =>
    if arena.initialized ∧ size ≠ 0 ∧ padded ≤ arena.capacity then padded else 0

theorem asked_eq_of_pos {arena : Arena} {size : Nat} (h : 0 < arena.asked size) :
    padded? size = some (arena.asked size) ∧ arena.initialized = true ∧ 0 < size ∧
      arena.asked size ≤ arena.capacity := by
  unfold asked at h ⊢
  split at h
  · exact absurd h (Nat.lt_irrefl 0)
  · next padded hp =>
    simp only [hp]
    split at h
    · next hc =>
      rw [if_pos hc]
      exact ⟨rfl, hc.1, Nat.pos_of_ne_zero hc.2.1, hc.2.2⟩
    · exact absurd h (Nat.lt_irrefl 0)

theorem asked_lt (arena : Arena) (size : Nat) : arena.asked size < sizeLimit := by
  unfold sizeLimit
  rcases Nat.eq_zero_or_pos (arena.asked size) with h | h
  · omega
  · have := padded?_eq_some_iff.mp (asked_eq_of_pos h).1
    omega

theorem asked_aligned (arena : Arena) (size : Nat) : arena.asked size % alignment = 0 := by
  rcases Nat.eq_zero_or_pos (arena.asked size) with h | h
  · rw [h]; rfl
  · exact (padded?_eq_some_iff.mp (asked_eq_of_pos h).1).2.1

theorem asked_of_torn {arena : Arena} {size : Nat} (torn : arena.initialized = false) :
    arena.asked size = 0 := by
  unfold asked
  split
  · rfl
  · rw [torn, if_neg]
    exact fun all => nomatch all.1

theorem asked_congr {before after : Arena} (capacity : after.capacity = before.capacity)
    (initialized : after.initialized = before.initialized) (size : Nat) :
    after.asked size = before.asked size := by
  simp only [asked, capacity, initialized]

theorem asked_zero (arena : Arena) : arena.asked 0 = 0 := by
  unfold asked
  split
  · rfl
  · exact if_neg fun all => all.2.1 rfl

/-- Of an arena that is set up, a request asks for its padded size unless that is too large. -/
theorem asked_of_ready {arena : Arena} {size : Nat} (ready : arena.initialized = true)
    (nonzero : size ≠ 0) : arena.asked size =
      match padded? size with
      | none => 0
      | some padded => if padded ≤ arena.capacity then padded else 0 := by
  simp only [asked, ready, nonzero, true_and, ne_eq, not_false_eq_true]

/-- All that a request can come to. One that is turned down before it reaches the bump offset asks
for nothing. Any other moves the offset by what it asks for, around its 64 bits, served or not. -/
inductive Allocated (arena : Arena) (size : Nat) : Outcome AllocError Arena Block → Prop
  | uninitialized : arena.initialized = false → arena.asked size = 0 →
      Allocated arena size ⟨.error .uninitialized, arena, []⟩
  | zeroSize : arena.initialized = true → size = 0 → arena.asked size = 0 →
      Allocated arena size ⟨.error .zeroSize, arena, []⟩
  | tooLarge : arena.initialized = true → size ≠ 0 → arena.asked size = 0 →
      Allocated arena size ⟨.error (.exhausted size arena.used arena.capacity), arena, []⟩
  | exhausted : 0 < arena.asked size → arena.capacity < arena.used + arena.asked size →
      Allocated arena size ⟨.error (.exhausted size arena.used arena.capacity),
        { arena with used := (arena.used + arena.asked size) % sizeLimit },
        [.arenaExhausted size arena.used arena.capacity]⟩
  | given : 0 < arena.asked size → arena.used + arena.asked size ≤ arena.capacity →
      Allocated arena size ⟨.ok ⟨arena.used, size, arena.epoch⟩,
        { arena with used := (arena.used + arena.asked size) % sizeLimit }, []⟩

theorem allocated (arena : Arena) (size : Nat) : Allocated arena size (allocate size arena) := by
  unfold allocate
  by_cases ready : arena.initialized = true
  case neg =>
    have torn : arena.initialized = false := Bool.eq_false_iff.mpr ready
    rw [if_pos (by rw [torn]; rfl)]
    exact .uninitialized torn (asked_of_torn torn)
  rw [if_neg (by rw [ready]; exact Bool.false_ne_true)]
  by_cases none : size = 0
  case pos =>
    rw [if_pos none]
    exact .zeroSize ready none (none ▸ asked_zero arena)
  rw [if_neg none]
  have asked := asked_of_ready ready none
  cases padding : padded? size with
  | none =>
    rw [padding] at asked
    exact .tooLarge ready none asked
  | some padded =>
    have pos : 0 < padded := by
      have := padded?_eq_some_iff.mp padding
      omega
    rw [padding] at asked
    simp only at asked ⊢
    by_cases large : arena.capacity < padded
    · rw [if_neg (Nat.not_le.mpr large)] at asked
      rw [if_pos large]
      exact .tooLarge ready none asked
    · rw [if_pos (Nat.not_lt.mp large)] at asked
      rw [if_neg large, ← asked]
      rw [← asked] at pos
      split
      · next full => exact .exhausted pos full
      · next fits => exact .given pos (Nat.not_lt.mp fits)

/-- A request moves the bump offset by what it asks for, around its 64 bits, and does nothing
else to the arena. -/
theorem state_allocate {arena : Arena} (fits : arena.used < sizeLimit) (size : Nat) :
    (allocate size arena).state =
      { arena with used := (arena.used + arena.asked size) % sizeLimit } := by
  have allocated := allocated arena size
  generalize allocate size arena = out at allocated
  cases allocated with
  | uninitialized _ idle | zeroSize _ _ idle | tooLarge _ _ idle =>
    rw [idle, Nat.add_zero, Nat.mod_eq_of_lt fits]
  | exhausted | given => rfl

/-- The offset rises by what is asked for, or goes around 2 ^ 64. -/
theorem used_allocate_cases {arena : Arena} (fits : arena.used < sizeLimit) (size : Nat) :
    (allocate size arena).state.used = arena.used + arena.asked size ∨
      (allocate size arena).state.used + sizeLimit = arena.used + arena.asked size := by
  have small := asked_lt arena size
  rw [state_allocate fits]
  show (arena.used + arena.asked size) % sizeLimit = _ ∨ _ % sizeLimit + sizeLimit = _
  unfold sizeLimit at *
  omega

theorem asked_le_capacity (arena : Arena) (size : Nat) : arena.asked size ≤ arena.capacity := by
  rcases Nat.eq_zero_or_pos (arena.asked size) with none | some
  · rw [none]
    exact Nat.zero_le _
  · exact (asked_eq_of_pos some).2.2.2

/-- Wherever the offset is, a request moves nothing else. -/
theorem exists_state_allocate (arena : Arena) (size : Nat) :
    ∃ used, (allocate size arena).state = { arena with used } := by
  have allocated := allocated arena size
  generalize allocate size arena = out at allocated
  cases allocated <;> exact ⟨_, rfl⟩

/-- Where a request leaves the offset, wherever that is before. -/
theorem used_allocate (arena : Arena) (size : Nat) : (allocate size arena).state.used =
    if arena.asked size = 0 then arena.used else (arena.used + arena.asked size) % sizeLimit := by
  have allocated := allocated arena size
  generalize allocate size arena = out at allocated
  cases allocated with
  | uninitialized _ idle | zeroSize _ _ idle | tooLarge _ _ idle => exact (if_pos idle).symm
  | exhausted pos _ | given pos _ => exact (if_neg pos.ne').symm

theorem answer_allocate (arena : Arena) (size : Nat) : (allocate size arena).answer =
    if arena.initialized = false then .error .uninitialized
    else if size = 0 then .error .zeroSize
    else if 0 < arena.asked size ∧ arena.used + arena.asked size ≤ arena.capacity then
      .ok ⟨arena.used, size, arena.epoch⟩
    else .error (.exhausted size arena.used arena.capacity) := by
  have allocated := allocated arena size
  generalize allocate size arena = out at allocated
  cases allocated with
  | uninitialized torn _ => simp [torn]
  | zeroSize ready none _ => simp [ready, none]
  | tooLarge ready nonzero idle => simp [ready, nonzero, idle]
  | exhausted pos full =>
    obtain ⟨-, ready, nonzero, -⟩ := asked_eq_of_pos pos
    simp [ready, nonzero.ne', Nat.not_le.mpr full]
  | given pos fits =>
    obtain ⟨-, ready, nonzero, -⟩ := asked_eq_of_pos pos
    simp [ready, nonzero.ne', pos, fits]

/-- A block is handed out exactly if the request reaches the offset and what it asks for fits
there. -/
theorem allocate_eq_ok_iff {arena : Arena} {size : Nat} {block : Block} :
    (allocate size arena).answer = .ok block ↔
      0 < arena.asked size ∧ arena.used + arena.asked size ≤ arena.capacity ∧
        block = ⟨arena.used, size, arena.epoch⟩ := by
  have allocated := allocated arena size
  generalize allocate size arena = out at allocated
  cases allocated with
  | uninitialized _ idle | zeroSize _ _ idle | tooLarge _ _ idle => simp [idle]
  | exhausted _ full => simp [Nat.not_le.mpr full]
  | given pos fits => simp [pos, fits, eq_comm]

/-- A block that was handed out ends, padding included, where the offset stands afterwards. -/
theorem reservedEnd_of_allocate {arena : Arena} {size : Nat} {block : Block}
    (h : (allocate size arena).answer = .ok block) :
    block.offset = arena.used ∧ block.reservedEnd = arena.used + arena.asked size := by
  obtain ⟨pos, -, rfl⟩ := allocate_eq_ok_iff.mp h
  exact ⟨rfl, Block.reservedEnd_eq (asked_eq_of_pos pos).1⟩

/-! ## The offset of every arena -/

/-- What holds of every arena: its numbers fit in 64 bits, and its next block would be aligned. -/
structure Regular (arena : Arena) : Prop where
  capacity_lt : arena.capacity < sizeLimit
  used_lt : arena.used < sizeLimit
  aligned : arena.used % alignment = 0

theorem reservable_iff {grants : Nat → Bool} {capacity : Nat} :
    reservable grants capacity = true ↔
      0 < capacity ∧ capacity ≤ roomLimit ∧ grants capacity = true := by
  simp only [reservable, Bool.and_eq_true, decide_eq_true_eq, and_assoc]

theorem answer_new (grants : Nat → Bool) (capacity : Nat) : (new grants capacity).answer =
    if reservable grants capacity then .ok ⟨.empty, capacity, 0, 0, true⟩
    else .error (.reservationFailed capacity) := by
  unfold new
  split <;> rfl

section New

variable {grants : Nat → Bool} {capacity : Nat} {arena : Arena}

theorem new_eq_ok (h : (new grants capacity).answer = .ok arena) :
    reservable grants capacity = true ∧ arena = ⟨.empty, capacity, 0, 0, true⟩ := by
  rw [answer_new] at h
  split at h
  · next reserved => exact ⟨reserved, (Except.ok.inj h).symm⟩
  · cases h

theorem eq_of_new (h : (new grants capacity).answer = .ok arena) :
    arena = ⟨.empty, capacity, 0, 0, true⟩ := (new_eq_ok h).2

/-- In 64 bits there is room for an arena twice as large as what is in one piece. -/
theorem room_of_new (h : (new grants capacity).answer = .ok arena) :
    2 * arena.capacity < sizeLimit ∧ arena.used = 0 := by
  obtain ⟨reserved, rfl⟩ := new_eq_ok h
  obtain ⟨-, room, -⟩ := reservable_iff.mp reserved
  refine ⟨?_, rfl⟩
  show 2 * capacity < sizeLimit
  unfold roomLimit at room
  unfold sizeLimit
  omega

theorem regular_new (h : (new grants capacity).answer = .ok arena) : arena.Regular := by
  obtain ⟨room, used⟩ := room_of_new h
  exact ⟨by omega, used ▸ sizeLimit_pos, by rw [used]; rfl⟩

end New

theorem Regular.allocate {arena : Arena} (regular : arena.Regular) (size : Nat) :
    (allocate size arena).state.Regular := by
  rw [state_allocate regular.used_lt]
  refine ⟨regular.capacity_lt, Nat.mod_lt _ sizeLimit_pos, ?_⟩
  have step := asked_aligned arena size
  have start := regular.aligned
  unfold alignment sizeLimit at *
  show (arena.used + arena.asked size) % _ % _ = 0
  omega

theorem Regular.onlyIn {block : Block} {before after : Arena} (regular : before.Regular)
    (h : OnlyIn block before after) : after.Regular :=
  ⟨h.capacity ▸ regular.capacity_lt, h.used ▸ regular.used_lt, h.used ▸ regular.aligned⟩

theorem Regular.reset {ε : Type} {arena : Arena} (regular : arena.Regular) :
    (Arena.reset (ε := ε) arena).state.Regular :=
  ⟨regular.capacity_lt, sizeLimit_pos, rfl⟩

theorem Regular.teardown {ε : Type} {arena : Arena} (regular : arena.Regular) :
    (Arena.teardown (ε := ε) arena).state.Regular := by
  unfold Arena.teardown
  split
  · exact ⟨sizeLimit_pos, sizeLimit_pos, rfl⟩
  · exact regular

/-! ## Requests in order -/

/-- What a list of requests asks for together. -/
def demand (arena : Arena) (sizes : List Nat) : Nat := (sizes.map arena.asked).sum

/-- The blocks handed out for a list of requests, in their order. -/
def granted (arena : Arena) : (sizes : List Nat) → List Block
  | [] => []
  | size :: sizes =>
    let out := allocate size arena
    match out.answer with
    | .ok block => block :: out.state.granted sizes
    | .error _ => out.state.granted sizes

/-- The bump offset before the first request and after each one. -/
def offsets (arena : Arena) : (sizes : List Nat) → List Nat
  | [] => [arena.used]
  | size :: sizes => arena.used :: (allocate size arena).state.offsets sizes

/-- The blocks handed out for a list of requests do not overlap, whoever asked for them. -/
structure GrantsApart (arena : Arena) (sizes : List Nat) : Prop where
  aligned : ∀ block ∈ arena.granted sizes, block.offset % alignment = 0
  inside : ∀ block ∈ arena.granted sizes, block.reservedEnd ≤ arena.capacity
  apart : (arena.granted sizes).Pairwise Block.Disjoint
  rising : (arena.offsets sizes).Pairwise (· ≤ ·)

namespace ReservationLemmas

theorem demand_allocate {arena : Arena} (fits : arena.used < sizeLimit) (size : Nat)
    (sizes : List Nat) : (allocate size arena).state.demand sizes = arena.demand sizes := by
  have same : (allocate size arena).state.asked = arena.asked := by
    rw [state_allocate fits]
    exact funext (asked_congr rfl rfl)
  rw [demand, same, demand]

theorem demand_cons (arena : Arena) (size : Nat) (sizes : List Nat) :
    arena.demand (size :: sizes) = arena.asked size + arena.demand sizes := by
  simp [demand]

theorem state_allocate_of_lt (arena : Arena) (size : Nat)
    (h : arena.used + arena.asked size < sizeLimit) :
    (allocate size arena).state = { arena with used := arena.used + arena.asked size } := by
  rw [state_allocate (by omega), Nat.mod_eq_of_lt h]

theorem mem_granted_cons {arena : Arena} {size : Nat} {sizes : List Nat} {block : Block} :
    block ∈ arena.granted (size :: sizes) ↔
      (allocate size arena).answer = .ok block ∨
        block ∈ (allocate size arena).state.granted sizes := by
  rw [granted]
  cases (allocate size arena).answer with
  | ok first => simp [eq_comm]
  | error e => simp

theorem used_mem_offsets (arena : Arena) (sizes : List Nat) : arena.used ∈ arena.offsets sizes := by
  cases sizes <;> simp [offsets]

/-- Where all requests stay below 2 ^ 64, those after the first start where it left the offset, and
stay below as well. -/
theorem fits_allocate {arena : Arena} {size : Nat} {sizes : List Nat}
    (fits : arena.used + arena.demand (size :: sizes) < sizeLimit) :
    (allocate size arena).state = { arena with used := arena.used + arena.asked size } ∧
      (allocate size arena).state.used + (allocate size arena).state.demand sizes < sizeLimit := by
  rw [demand_cons] at fits
  have next := state_allocate_of_lt arena size (by omega)
  refine ⟨next, ?_⟩
  rw [demand_allocate (by omega), next]
  show arena.used + arena.asked size + _ < _
  omega

/-- Every block is handed out at or beyond the offset at which the requests started, and every
later offset is as large. -/
theorem above_start {arena : Arena} {sizes : List Nat}
    (fits : arena.used + arena.demand sizes < sizeLimit) :
    (∀ block ∈ arena.granted sizes, arena.used ≤ block.offset) ∧
      ∀ offset ∈ arena.offsets sizes, arena.used ≤ offset := by
  -- By induction on the requests: those after the first start where it left the offset.
  induction sizes generalizing arena with
  | nil => simp [granted, offsets]
  | cons size sizes ih =>
    obtain ⟨next, fits'⟩ := fits_allocate fits
    have rest := ih fits'
    have start : (allocate size arena).state.used = arena.used + arena.asked size := by rw [next]
    constructor
    · intro block member
      rcases mem_granted_cons.mp member with first | later
      · exact Nat.le_of_eq (reservedEnd_of_allocate first).1.symm
      · have := rest.1 block later
        omega
    · intro offset member
      rcases List.mem_cons.mp member with first | later
      · exact Nat.le_of_eq first.symm
      · have := rest.2 offset later
        omega

/-- As long as the sum of what is asked for stays below 2 ^ 64, each block ends before the next one
starts. -/
theorem granted_rising {arena : Arena} {sizes : List Nat}
    (fits : arena.used + arena.demand sizes < sizeLimit) :
    (arena.granted sizes).Pairwise fun first next => first.reservedEnd ≤ next.offset := by
  induction sizes generalizing arena with
  | nil => exact .nil
  | cons size sizes ih =>
    obtain ⟨next, fits'⟩ := fits_allocate fits
    rw [granted]
    cases first : (allocate size arena).answer with
    | error e => exact ih fits'
    | ok block =>
      refine List.pairwise_cons.mpr ⟨fun other member => ?_, ih fits'⟩
      have later := (above_start fits').1 other member
      rw [next] at later
      rw [(reservedEnd_of_allocate first).2]
      exact later

/-- As long as the sum of what is asked for stays below 2 ^ 64, blocks do not overlap. -/
theorem grantsApart_of_lt {arena : Arena} {sizes : List Nat}
    (aligned : arena.used % alignment = 0)
    (fits : arena.used + arena.demand sizes < sizeLimit) : arena.GrantsApart sizes := by
  induction sizes generalizing arena with
  | nil => exact ⟨by simp [granted], by simp [granted], .nil, by simp [offsets]⟩
  | cons size sizes ih =>
    obtain ⟨next, fits'⟩ := fits_allocate fits
    have aligned' : (allocate size arena).state.used % alignment = 0 := by
      have step := asked_aligned arena size
      rw [next]
      show (arena.used + arena.asked size) % alignment = 0
      rw [Nat.add_mod, aligned, step]; rfl
    have rest := ih aligned' fits'
    refine ⟨?_, ?_, (granted_rising fits).imp .inl, ?_⟩
    · intro block member
      rcases mem_granted_cons.mp member with first | other
      · rw [(reservedEnd_of_allocate first).1]
        exact aligned
      · exact rest.aligned block other
    · intro block member
      rcases mem_granted_cons.mp member with first | other
      · rw [(reservedEnd_of_allocate first).2]
        exact (allocate_eq_ok_iff.mp first).2.1
      · have inside := rest.inside block other
        rw [next] at inside
        exact inside
    · refine List.pairwise_cons.mpr ⟨fun offset member => ?_, rest.rising⟩
      exact (above_start fits).2 offset (List.mem_cons_of_mem _ member)

/-- The offset falls as soon as the sum of what is asked for reaches 2 ^ 64. -/
theorem lt_of_rising {arena : Arena} {sizes : List Nat} (start : arena.used < sizeLimit)
    (rising : (arena.offsets sizes).Pairwise (· ≤ ·)) :
    arena.used + arena.demand sizes < sizeLimit := by
  induction sizes generalizing arena with
  | nil => simpa [demand] using start
  | cons size sizes ih =>
    have small := asked_lt arena size
    have next := state_allocate start size
    obtain ⟨above, rising'⟩ := List.pairwise_cons.mp rising
    have up : arena.used ≤ (arena.used + arena.asked size) % sizeLimit := by
      have := above _ (used_mem_offsets (allocate size arena).state sizes)
      rw [next] at this
      exact this
    -- A wrapped offset would be below the one before, since a request asks for less than 2 ^ 64.
    have unwrapped : arena.used + arena.asked size < sizeLimit := by
      unfold sizeLimit at *
      omega
    have rest := @ih (allocate size arena).state
      (by rw [next]; exact Nat.mod_lt _ sizeLimit_pos) rising'
    rw [demand_allocate start, next] at rest
    rw [demand_cons]
    have : (arena.used + arena.asked size) % sizeLimit = arena.used + arena.asked size :=
      Nat.mod_eq_of_lt unwrapped
    simp only [this] at rest
    omega

end ReservationLemmas

open ReservationLemmas

/-- The requests made of an arena, in any order and however many of them fail, get blocks that are
aligned, inside the arena and apart, while the offset never falls, exactly if what they ask for
does not take the offset to 2 ^ 64. -/
theorem grantsApart_iff {arena : Arena} (regular : arena.Regular) (sizes : List Nat) :
    arena.GrantsApart sizes ↔ arena.used + arena.demand sizes < sizeLimit :=
  ⟨fun apart => lt_of_rising regular.used_lt apart.rising, grantsApart_of_lt regular.aligned⟩

/-- Five requests made of an arena of 64 bytes, of which three are refused. -/
theorem grantsApart_small :
    (⟨.empty, 64, 0, 0, true⟩ : Arena).Regular ∧
      (⟨.empty, 64, 0, 0, true⟩ : Arena).GrantsApart [5, 0, 40, 70, 8] :=
  have regular : (⟨.empty, 64, 0, 0, true⟩ : Arena).Regular := ⟨by decide, by decide, rfl⟩
  ⟨regular, (grantsApart_iff regular _).mpr (by decide)⟩

namespace ReservationLemmas

/-- A request repeated until the offset has gone around is served at the start of the arena. -/
theorem start_mem_granted {arena : Arena} {size : Nat} (count : Nat) (pos : 0 < arena.asked size)
    (fits : arena.used < sizeLimit)
    (around : (arena.used + count * arena.asked size) % sizeLimit = 0) :
    ⟨0, size, arena.epoch⟩ ∈ arena.granted (List.replicate (count + 1) size) := by
  induction count generalizing arena with
  | zero =>
    rw [Nat.zero_mul, Nat.add_zero, Nat.mod_eq_of_lt fits] at around
    have inside := (asked_eq_of_pos pos).2.2.2
    refine mem_granted_cons.mpr (.inl (allocate_eq_ok_iff.mpr ⟨pos, by omega, ?_⟩))
    rw [around]
  | succ count ih =>
    have next := state_allocate fits size
    have same : (allocate size arena).state.asked size = arena.asked size :=
      asked_congr (by rw [next]) (by rw [next]) size
    have epoch : (allocate size arena).state.epoch = arena.epoch := by rw [next]
    -- Whatever the first request gets, one less is to be repeated from the offset it leaves.
    rw [List.replicate_succ, ← epoch]
    refine mem_granted_cons.mpr (.inr (ih (by rw [same]; exact pos) ?_ ?_))
    · rw [next]
      exact Nat.mod_lt _ sizeLimit_pos
    · rw [same, next]
      show ((arena.used + arena.asked size) % sizeLimit + count * arena.asked size) % sizeLimit = 0
      rw [Nat.mod_add_mod, Nat.add_assoc, Nat.add_comm (arena.asked size), ← Nat.succ_mul]
      exact around

/-- A block that is handed out twice overlaps itself. -/
theorem not_apart_of_around {arena : Arena} {size : Nat} (count : Nat) (start : arena.used = 0)
    (pos : 0 < arena.asked size) (around : (count + 1) * arena.asked size % sizeLimit = 0) :
    ¬ (arena.granted (List.replicate (count + 1 + 1) size)).Pairwise Block.Disjoint := by
  have fits : arena.used < sizeLimit := by rw [start]; decide
  have next := state_allocate fits size
  have inside := (asked_eq_of_pos pos).2.2.2
  have first : (allocate size arena).answer = .ok ⟨0, size, arena.epoch⟩ :=
    allocate_eq_ok_iff.mpr ⟨pos, by omega, by rw [start]⟩
  have same : (allocate size arena).state.asked size = arena.asked size :=
    asked_congr (by rw [next]) (by rw [next]) size
  have again : ⟨0, size, arena.epoch⟩ ∈
      (allocate size arena).state.granted (List.replicate (count + 1) size) := by
    have member := @start_mem_granted (allocate size arena).state size count
      (by rw [same]; exact pos) (by rw [next]; exact Nat.mod_lt _ sizeLimit_pos) (by
        rw [same, next, start]
        show ((0 + arena.asked size) % sizeLimit + count * arena.asked size) % sizeLimit = 0
        rw [Nat.mod_add_mod, Nat.zero_add, Nat.add_comm, ← Nat.succ_mul]
        exact around)
    rw [next] at member ⊢
    exact member
  have reserved := (reservedEnd_of_allocate first).2
  rw [List.replicate_succ, granted, first]
  intro apart
  have itself := (List.pairwise_cons.mp apart).1 _ again
  simp only [Block.Disjoint, reserved] at itself
  omega

end ReservationLemmas

/-- Without a bound on what is asked for, blocks overlap. After 2 ^ 32 requests of 4 GiB each, made
of an arena of 4 GiB, the offset is 0 again, and the next request gets the block of the first. -/
theorem overlapping_after_offset_wraps :
    ¬ ∀ (capacity : Nat) (arena : Arena) (sizes : List Nat),
      (Arena.new (fun _ => true) capacity).answer = .ok arena → arena.GrantsApart sizes := by
  intro law
  have apart := (law 0x100000000 ⟨.empty, 0x100000000, 0, 0, true⟩
    (List.replicate (0xffffffff + 1 + 1) 0x100000000) rfl).apart
  exact not_apart_of_around 0xffffffff rfl (by decide) (by decide) apart

end HandleHeap.Arena
