import HandleHeap.Proofs.CommandLine.Chain
import HandleHeap.Proofs.CommandLine.Stress

/-!
# Which sizes are refused, and which are faults

The sizes of a configuration and of the command line may be any. Most of those that are too large
are refused. Two are not: the room for the handles of a heap is made without asking whether there
is any, and the chain command multiplies without looking at the product.

Whether the memory for an arena can be reserved, and what becomes of the threads of a stress run, is
for the system to say, and none of the answers is excluded.

* `Heap.NotMade`, `Chain.Stopped`, `Stress.Stopped`: the ways in which a heap is not made, and in
  which the commands do not end in a summary.
* `sizing_exact`: there are no other ways.
-/

namespace HandleHeap

variable {grants : Nat → Bool}

/-- What stops the making of a heap. -/
inductive Heap.NotMade (grants : Nat → Bool) (config : Config) : Stop → Prop
  | unreserved (unreservable : Arena.reservable grants config.arenaCapacity = false) :
      NotMade grants config (.refused (.outOfMemory (.reservationFailed config.arenaCapacity)))
  | overflows (reserved : Arena.reservable grants config.arenaCapacity = true)
      (large : roomLimit < Placement.entrySize * (config.initialHandles + 1)) :
      NotMade grants config (.fault .capacityOverflow)

theorem Heap.new_eq_error_iff {config : Config} {stop : Stop} :
    (Heap.new grants config).answer = .error stop ↔ NotMade grants config stop := by
  rw [answer_new]
  constructor
  · intro stopped
    split at stopped
    · next reserved =>
      split at stopped
      · next large => cases stopped; exact .overflows reserved large
      · cases stopped
    · next unreservable => cases stopped; exact .unreserved (Bool.not_eq_true _ ▸ unreservable)
  · rintro (unreservable | ⟨reserved, large⟩)
    · rw [unreservable]
      rfl
    · rw [if_pos reserved, if_pos large]

/-- Once the arena is reserved, the handles must not need too much room. -/
theorem Heap.new_faultless_iff {config : Config} :
    (∀ fault, (Heap.new grants config).answer ≠ .error (.fault fault)) ↔
      Arena.reservable grants config.arenaCapacity = false ∨
        Placement.entrySize * (config.initialHandles + 1) ≤ roomLimit := by
  constructor
  · intro faultless
    by_contra neither
    obtain ⟨reserved, large⟩ := not_or.mp neither
    refine faultless .capacityOverflow (new_eq_error_iff.mpr ?_)
    exact .overflows (Bool.eq_true_of_not_eq_false reserved) (Nat.not_le.mp large)
  · intro either fault faulted
    cases new_eq_error_iff.mp faulted with
    | overflows reserved large =>
      rcases either with unreservable | small
      · exact absurd reserved (Bool.eq_false_iff.mp unreservable)
      · exact absurd small (Nat.not_le.mpr large)

namespace CommandLine

namespace Chain

/-- The bytes that the arena for a chain has. -/
def arenaSize (depth : Nat) : Nat := max (links depth * bytesPerLink) (64 * 1024)

/-- What stops the chain command. -/
inductive Stopped (grants : Nat → Bool) (depth : Nat) : Stop → Prop
  | overflows (large : sizeLimit ≤ links depth * bytesPerLink) :
      Stopped grants depth (.fault .productOverflow)
  | unreserved (fits : links depth * bytesPerLink < sizeLimit)
      (unreservable : Arena.reservable grants (arenaSize depth) = false) :
      Stopped grants depth (.refused (.outOfMemory (.reservationFailed (arenaSize depth))))
  | unnumbered (reserved : Arena.reservable grants (arenaSize depth) = true)
      (many : Heap.lastNumber < 2 * links depth) :
      Stopped grants depth (.refused .handleTableFull)

theorem searched_of_overflow {depth : Nat} (cycle : Bool)
    (large : sizeLimit ≤ links depth * bytesPerLink) :
    searched grants depth cycle = .error (.fault .productOverflow) := by
  have unsized : capacity depth = .error (.fault .productOverflow) := if_neg (Nat.not_lt.mpr large)
  unfold searched
  rw [unsized]
  rfl

/-- Before a chain is built, its arena has to be reserved. -/
theorem searched_of_unreserved {depth : Nat} (cycle : Bool)
    (fits : links depth * bytesPerLink < sizeLimit)
    (unreservable : Arena.reservable grants (arenaSize depth) = false) :
    searched grants depth cycle =
      .error (.refused (.outOfMemory (.reservationFailed (arenaSize depth)))) := by
  have sized : capacity depth = .ok (arenaSize depth) := if_pos fits
  unfold searched
  rw [sized]
  show ((Heap.new grants { arenaCapacity := arenaSize depth }).answer >>= _) = _
  rw [Heap.new_eq_error_iff.mpr (.unreserved unreservable)]
  rfl

theorem searched_eq_error_iff {depth : Nat} {cycle : Bool} {stop : Stop} :
    searched grants depth cycle = .error stop ↔ Stopped grants depth stop := by
  constructor
  · intro stopped
    rcases Nat.lt_or_ge (links depth * bytesPerLink) sizeLimit with fits | large
    · cases reserved : Arena.reservable grants (arenaSize depth) with
      | true =>
        rw [searched_eq cycle reserved] at stopped
        split at stopped
        · cases stopped
        · next many => cases stopped; exact .unnumbered reserved (Nat.not_le.mp many)
      | false =>
        rw [searched_of_unreserved cycle fits reserved] at stopped
        cases stopped
        exact .unreserved fits reserved
    · rw [searched_of_overflow cycle large] at stopped
      cases stopped
      exact .overflows large
  · rintro (large | ⟨fits, unreservable⟩ | ⟨reserved, many⟩)
    · exact searched_of_overflow cycle large
    · exact searched_of_unreserved cycle fits unreservable
    · rw [searched_eq cycle reserved, if_neg (Nat.not_le.mpr many)]

/-- The command stops where its search does. -/
theorem run_eq_error_iff {depth : Nat} {cycle : Bool} {stop : Stop} :
    run grants depth cycle = .error stop ↔ Stopped grants depth stop := by
  refine Iff.trans ?_ (searched_eq_error_iff : searched grants depth cycle = .error stop ↔ _)
  unfold run
  rcases searched grants depth cycle with earlier | ended
  · exact ⟨fun stopped => by cases stopped; rfl, fun stopped => by cases stopped; rfl⟩
  · exact ⟨nofun, nofun⟩

theorem faultless_iff {depth : Nat} {cycle : Bool} :
    (∀ fault, run grants depth cycle ≠ .error (.fault fault)) ↔
      links depth * bytesPerLink < sizeLimit := by
  constructor
  · intro faultless
    by_contra large
    exact faultless .productOverflow (run_eq_error_iff.mpr (.overflows (Nat.not_lt.mp large)))
  · intro fits fault faulted
    cases run_eq_error_iff.mp faulted with
    | overflows large => exact absurd fits (Nat.not_lt.mpr large)

end Chain

namespace Stress

variable {threads allocs size : Nat}

/-- The products that lead to the default capacity are all within 64 bits. -/
def Fits (threads allocs size : Nat) : Prop :=
  roundUp size < sizeLimit ∧ roundUp size * allocs < sizeLimit ∧
    roundUp size * allocs * threads < sizeLimit

instance : Decidable (Fits threads allocs size) := inferInstanceAs (Decidable (_ ∧ _ ∧ _))

theorem exactCapacity?_eq (threads allocs size : Nat) : exactCapacity? threads allocs size =
    if Fits threads allocs size then some (roundUp size * allocs * threads) else none := by
  have rounded : padded? size = if roundUp size < sizeLimit then some (roundUp size) else none := by
    by_cases small : size + 15 < sizeLimit
    · rw [padded?_eq_roundUp small, if_pos (by unfold roundUp; unfold sizeLimit at *; omega)]
    · rw [if_neg (by unfold roundUp; unfold sizeLimit at *; omega)]
      exact if_neg small
  rw [exactCapacity?, rounded]
  by_cases padded : roundUp size < sizeLimit
  · rw [if_pos padded]
    show (if roundUp size * allocs < sizeLimit then
      (if roundUp size * allocs * threads < sizeLimit then some _ else none) else none) = _
    rw [← ite_and]
    exact if_congr ⟨fun products => ⟨padded, products⟩, And.right⟩ rfl rfl
  · rw [if_neg padded]
    exact (if_neg fun fits => padded fits.1).symm

/-- What is told where no capacity is given and the products do not fit. -/
def overflowMessage : String := "stress arena capacity overflows usize; pass --capacity"

/-- The default capacity is refused if it does not fit. -/
theorem capacity_none (threads allocs size : Nat) : capacity threads allocs size none =
    if Fits threads allocs size then .ok (roundUp size * allocs * threads)
    else .error (.refused overflowMessage) := by
  have default := exactCapacity?_eq threads allocs size
  unfold capacity
  by_cases fits : Fits threads allocs size
  · rw [if_pos fits] at default ⊢
    rw [show (none <|> exactCapacity? threads allocs size) = _ from default]
  · rw [if_neg fits] at default ⊢
    rw [show (none <|> exactCapacity? threads allocs size) = _ from default]
    rfl

/-- A capacity that is given is taken as it is. -/
theorem capacity_eq_error_iff {given : Option Nat} {failure : Failure} :
    capacity threads allocs size given = .error failure ↔
      given = none ∧ ¬ Fits threads allocs size ∧ failure = .refused overflowMessage := by
  cases given with
  | some bytes => exact ⟨nofun, nofun⟩
  | none =>
    rw [capacity_none]
    by_cases fits : Fits threads allocs size
    · simp [fits]
    · simp [fits, eq_comm]

theorem capacity_eq_ok_iff {given : Option Nat} {bytes : Nat} :
    capacity threads allocs size given = .ok bytes ↔ given = some bytes ∨
      given = none ∧ Fits threads allocs size ∧ roundUp size * allocs * threads = bytes := by
  cases given with
  | some capacity =>
    exact ⟨fun same => .inl (congrArg some (Except.ok.inj same)), fun same => by
      rcases same with same | ⟨none, -⟩
      · exact congrArg Except.ok (Option.some.inj same)
      · cases none⟩
  | none =>
    rw [capacity_none]
    by_cases fits : Fits threads allocs size
    · simp [fits]
    · simp [fits]

/-- What stops the stress command: the capacity, the arena, or the threads. -/
inductive Stopped (grants : Nat → Bool) (crew : Crew) (threads allocs size : Nat)
    (given : Option Nat) : Failure → Prop
  | unsized {failure : Failure} (unsized : capacity threads allocs size given = .error failure) :
      Stopped grants crew threads allocs size given failure
  | unreserved {bytes : Nat} (sized : capacity threads allocs size given = .ok bytes)
      (unreservable : Arena.reservable grants bytes = false) :
      Stopped grants crew threads allocs size given
        (.refused (AllocError.reservationFailed bytes).message)
  | unjoined {bytes : Nat} {failure : Failure}
      (sized : capacity threads allocs size given = .ok bytes)
      (reserved : Arena.reservable grants bytes = true) (lost : crew.join = .error failure) :
      Stopped grants crew threads allocs size given failure

section Run

variable {crew : Crew} {given : Option Nat} {bytes : Nat}

theorem run_of_unsized {failure : Failure}
    (unsized : capacity threads allocs size given = .error failure) :
    run grants crew threads allocs size given = .error failure := by
  unfold run
  rw [unsized]
  rfl

theorem run_of_unreserved (sized : capacity threads allocs size given = .ok bytes)
    (unreservable : Arena.reservable grants bytes = false) :
    run grants crew threads allocs size given =
      .error (.refused (AllocError.reservationFailed bytes).message) := by
  unfold run
  rw [sized]
  show ((Arena.new grants bytes).answer.mapError _ >>= _) = _
  rw [Arena.answer_new, unreservable]
  rfl

/-- In an arena that is reserved, only the threads may fail. -/
theorem run_of_reserved (sized : capacity threads allocs size given = .ok bytes)
    (reserved : Arena.reservable grants bytes = true) :
    run grants crew threads allocs size given = crew.join.map fun schedule =>
      summary threads allocs size (totals threads size schedule ⟨.empty, bytes, 0, 0, true⟩) := by
  unfold run
  rw [sized]
  show ((Arena.new grants bytes).answer.mapError _ >>= _) = _
  rw [Arena.answer_new, if_pos reserved]
  cases crew.join <;> rfl

theorem run_eq_error_iff {failure : Failure} :
    run grants crew threads allocs size given = .error failure ↔
      Stopped grants crew threads allocs size given failure := by
  constructor
  · intro stopped
    cases sized : capacity threads allocs size given with
    | error cause =>
      rw [run_of_unsized sized] at stopped
      cases stopped
      exact .unsized sized
    | ok bytes =>
      cases reserved : Arena.reservable grants bytes with
      | false =>
        rw [run_of_unreserved sized reserved] at stopped
        cases stopped
        exact .unreserved sized reserved
      | true =>
        rw [run_of_reserved sized reserved] at stopped
        cases joined : crew.join with
        | error cause =>
          rw [joined] at stopped
          cases stopped
          exact .unjoined sized reserved joined
        | ok schedule =>
          rw [joined] at stopped
          cases stopped
  · rintro (unsized | ⟨sized, unreservable⟩ | ⟨sized, reserved, lost⟩)
    · exact run_of_unsized unsized
    · exact run_of_unreserved sized unreservable
    · rw [run_of_reserved sized reserved, lost]
      rfl

end Run

end Stress

/-- When a heap or a chain faults on its sizes: for a number of handles that room cannot be made for,
and for a chain whose bytes cannot be counted. All other sizes for which a heap is not made, or a
chain is not searched, are refused. The capacity of a stress run is refused as well where it does not
fit, and never at fault: what else stops the run is the reservation of the arena, or the threads. -/
theorem sizing_exact (grants : Nat → Bool) (config : Config) (depth : Nat) (cycle : Bool)
    (crew : Stress.Crew) (threads allocs size : Nat) (given : Option Nat) :
    ((∀ fault, (Heap.new grants config).answer ≠ .error (.fault fault)) ↔
      Arena.reservable grants config.arenaCapacity = false ∨
        Placement.entrySize * (config.initialHandles + 1) ≤ roomLimit) ∧
    ((∀ fault, Chain.run grants depth cycle ≠ .error (.fault fault)) ↔
      Chain.links depth * Chain.bytesPerLink < sizeLimit) ∧
    (∀ stop, (Heap.new grants config).answer = .error stop ↔ Heap.NotMade grants config stop) ∧
    (∀ stop, Chain.run grants depth cycle = .error stop ↔ Chain.Stopped grants depth stop) ∧
    (∀ bytes, Stress.capacity threads allocs size given = .ok bytes ↔ given = some bytes ∨
      given = none ∧ Stress.Fits threads allocs size ∧ roundUp size * allocs * threads = bytes) ∧
    (∀ failure, Stress.capacity threads allocs size given = .error failure ↔
      given = none ∧ ¬ Stress.Fits threads allocs size ∧
        failure = .refused Stress.overflowMessage) ∧
    (∀ failure, Stress.run grants crew threads allocs size given = .error failure ↔
      Stress.Stopped grants crew threads allocs size given failure) :=
  ⟨Heap.new_faultless_iff, Chain.faultless_iff, fun _ => Heap.new_eq_error_iff,
    fun _ => Chain.run_eq_error_iff, fun _ => Stress.capacity_eq_ok_iff,
    fun _ => Stress.capacity_eq_error_iff,
    fun _ => Stress.run_eq_error_iff⟩

/-- More handles than there can be room for, and more links than bytes can be counted. The same
number of bytes is refused by the stress command. -/
theorem sizes_at_fault :
    (Heap.new (fun _ => true) { arenaCapacity := 1024, initialHandles := 2 ^ 64 - 1 }).answer =
      .error (.fault .capacityOverflow) ∧
    Chain.run (fun _ => true) (2 ^ 57) false = .error (.fault .productOverflow) ∧
    Stress.capacity (2 ^ 57) 1 128 none =
      .error (.refused "stress arena capacity overflows usize; pass --capacity") :=
  ⟨rfl, rfl, rfl⟩

end CommandLine

end HandleHeap
