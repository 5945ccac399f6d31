import HandleHeap.CommandLine.Stress
import HandleHeap.Proofs.Action
import HandleHeap.Proofs.Arena.Reservation

/-!
# Any schedule of a stress run gives the same report

All requests of a stress run are for the same size, so what the arena answers to the first, second,
third one does not depend on who made it (`answers`). The report forgets the order in which threads
got their blocks: it counts, and it sorts.

* `totals_of_schedule`: so the totals are those of the answers in order.
* `granted_length`: as many requests are served as blocks fit, and those blocks are already sorted
  and apart (`granted_rising`).
* `report_exact`: the totals in closed form, for a given capacity and for the default one.
-/

namespace HandleHeap.CommandLine.Stress

open HandleHeap.Arena (allocate)
open HandleHeap.Arena.ReservationLemmas

variable {grants : Nat → Bool} {threads allocs size : Nat} {arena : Arena}

/-! ## 1. What is served -/

/-- The arena after a number of requests for the same size. -/
def arenaAfter (size : Nat) : (count : Nat) → Arena → Arena
  | 0, arena => arena
  | count + 1, arena => arenaAfter size count (allocate size arena).state

/-- The answers to a number of requests for the same size. -/
def answers (size : Nat) : (count : Nat) → Arena → List (Except AllocError Block)
  | 0, _ => []
  | count + 1, arena => (allocate size arena).answer :: answers size count (allocate size arena).state

theorem length_answers (size count : Nat) (arena : Arena) :
    (answers size count arena).length = count := by
  induction count generalizing arena with
  | zero => rfl
  | succ count ih => rw [answers, List.length_cons, ih]

/-- Who makes a request does not matter to the answer. -/
theorem serve_eq (size : Nat) (schedule : List Nat) (served : List Served) (arena : Arena) :
    serve size schedule served arena =
      (served.reverse ++ schedule.zip (answers size schedule.length arena),
        arenaAfter size schedule.length arena) := by
  induction schedule generalizing served arena with
  | nil => rw [serve, List.zip_nil_left, List.append_nil]; rfl
  | cons thread schedule ih =>
    rw [serve, ih, List.reverse_cons, List.append_assoc]
    rfl

/-! ## 2. Who was served -/

/-- The answers to one thread. -/
theorem answers_to (thread : Nat) (served : List Served) :
    (served.filterMap fun (owner, given) => if owner = thread then some given else none) =
      (served.filter fun answer => answer.1 = thread).map Prod.snd := by
  rw [← List.filterMap_eq_map, List.filterMap_filter]
  simp only [decide_eq_true_eq, Function.comp_apply]

/-- Collecting the answers thread by thread loses none. -/
theorem byThread_perm (threads : Nat) (served : List Served) :
    (byThread threads served).Perm
      ((served.filter fun answer => answer.1 < threads).map Prod.snd) := by
  induction threads with
  | zero => simp [byThread]
  | succ threads ih =>
    have split := List.filter_append_perm (fun answer : Served => answer.1 < threads)
      (served.filter fun answer => answer.1 < threads + 1)
    have before : (served.filter fun answer => answer.1 < threads + 1).filter
        (fun answer => answer.1 < threads) = served.filter fun answer => answer.1 < threads := by
      rw [List.filter_filter]
      refine List.filter_congr fun answer _ => ?_
      rw [Bool.eq_iff_iff]
      simp only [Bool.and_eq_true, decide_eq_true_eq]
      omega
    have last : (served.filter fun answer => answer.1 < threads + 1).filter
        (fun answer => !decide (answer.1 < threads)) =
          served.filter fun answer => answer.1 = threads := by
      rw [List.filter_filter]
      refine List.filter_congr fun answer _ => ?_
      rw [Bool.eq_iff_iff]
      simp only [Bool.and_eq_true, Bool.not_eq_true', decide_eq_false_iff_not, decide_eq_true_eq]
      omega
    rw [before, last] at split
    have all := split.map Prod.snd
    rw [List.map_append, ← answers_to] at all
    rw [byThread, List.range_succ, List.flatMap_append, List.flatMap_singleton]
    exact (ih.append_right _).trans all

/-- The answers of a run, thread by thread, are the answers in order, arranged otherwise. -/
theorem byThread_serve_perm {schedule : List Nat} (own : ∀ thread ∈ schedule, thread < threads) :
    (byThread threads (serve size schedule [] arena).1).Perm
      (answers size schedule.length arena) := by
  have served : (serve size schedule [] arena).1 =
      schedule.zip (answers size schedule.length arena) := by
    rw [serve_eq]
    rfl
  have all : ((schedule.zip (answers size schedule.length arena)).filter
      fun answer => answer.1 < threads) = schedule.zip (answers size schedule.length arena) := by
    refine List.filter_eq_self.mpr fun answer member => ?_
    exact decide_eq_true (own _ (List.of_mem_zip member).1)
  have collected := byThread_perm threads (serve size schedule [] arena).1
  rwa [served, all, List.map_snd_zip (Nat.le_of_eq (length_answers ..)), ← served] at collected

/-! ## 3. The totals of a schedule -/

/-- A block that is given is as long as was asked for. -/
theorem len_of_mem_answers {count : Nat} {block : Block}
    (given : .ok block ∈ answers size count arena) : block.len = size := by
  induction count generalizing arena with
  | zero => cases given
  | succ count ih =>
    rcases List.mem_cons.mp given with first | later
    · obtain ⟨-, -, rfl⟩ := Arena.allocate_eq_ok_iff.mp first.symm
      rfl
    · exact ih later

theorem ranges_sorted (given : List (Except AllocError Block)) :
    (ranges given).Pairwise fun a b => a.1 ≤ b.1 := by
  refine (List.pairwise_mergeSort (fun a b c first second => ?_) (fun a b => ?_) _).imp
    of_decide_eq_true
  · exact decide_eq_true ((of_decide_eq_true first).trans (of_decide_eq_true second))
  · simpa using Nat.le_total a.1 b.1

theorem mem_ranges {given : List (Except AllocError Block)} {range : Nat × Nat} :
    range ∈ ranges given ↔
      ∃ block, .ok block ∈ given ∧ (block.offset, block.reservedEnd) = range := by
  rw [ranges, List.mem_mergeSort, List.mem_map]
  simp only [List.mem_filterMap, toOption_eq_some_iff, exists_eq_right]

/-- Blocks of one length are sorted by where they start in one way only. -/
theorem ranges_perm {a b : List (Except AllocError Block)} (perm : a.Perm b)
    (len : ∀ block, .ok block ∈ a → block.len = size) : ranges a = ranges b := by
  have same : (ranges a).Perm (ranges b) :=
    (List.mergeSort_perm ..).trans
      (((perm.filterMap _).map _).trans (List.mergeSort_perm ..).symm)
  refine List.Perm.eq_of_pairwise (fun x y first second low high => ?_) (ranges_sorted a)
    (ranges_sorted b) same
  obtain ⟨block, given, rfl⟩ := mem_ranges.mp first
  obtain ⟨block', given', rfl⟩ := mem_ranges.mp second
  have start : block.offset = block'.offset := Nat.le_antisymm low high
  have length : block.len = block'.len :=
    (len block given).trans (len block' (perm.mem_iff.mpr given')).symm
  rw [Block.reservedEnd, Block.reservedEnd, start, length]

theorem length_inTurn (threads allocs : Nat) :
    (inTurn threads allocs).length = threads * allocs := by
  rw [inTurn, List.length_flatMap]
  simp only [List.length_replicate, List.map_const', List.length_range, List.sum_replicate_nat]

theorem lt_of_mem_inTurn {thread : Nat} (member : thread ∈ inTurn threads allocs) :
    thread < threads := by
  obtain ⟨owner, own, member⟩ := List.mem_flatMap.mp member
  rw [(List.mem_replicate.mp member).2]
  exact List.mem_range.mp own

/-- The totals of any schedule in which each thread makes its requests are those of the answers in
order. -/
theorem totals_of_schedule {schedule : List Nat} (order : schedule.Perm (inTurn threads allocs))
    (size : Nat) (arena : Arena) :
    let given := answers size (threads * allocs) arena
    totals threads size schedule arena =
      { succeeded := (ranges given).length
        failed := given.countP fun answer => answer.toOption.isNone
        overlapping := overlaps (ranges given)
        used := (arenaAfter size (threads * allocs) arena).used
        capacity := (arenaAfter size (threads * allocs) arena).capacity } := by
  have own (thread : Nat) (member : thread ∈ schedule) : thread < threads :=
    lt_of_mem_inTurn (order.mem_iff.mp member)
  have collected : (byThread threads (serve size schedule [] arena).1).Perm
      (answers size schedule.length arena) := byThread_serve_perm own
  have count : schedule.length = threads * allocs := order.length_eq.trans (length_inTurn ..)
  rw [count] at collected
  have sorted := ranges_perm collected.symm fun block given => len_of_mem_answers given
  have after : (serve size schedule [] arena).2 = arenaAfter size (threads * allocs) arena := by
    rw [serve_eq, count]
  rcases run : serve size schedule [] arena with ⟨served, left⟩
  rw [run] at collected sorted after
  subst after
  simp only [totals, run, sorted, collected.countP_eq]

/-! ## 4. The totals in closed form -/

/-- A request moves the offset and leaves what the next one of its size asks for. -/
theorem asked_allocate (arena : Arena) (size : Nat)
    (fits : arena.used + arena.asked size < sizeLimit) :
    (allocate size arena).state = { arena with used := arena.used + arena.asked size } ∧
      (allocate size arena).state.asked size = arena.asked size := by
  have next := state_allocate_of_lt arena size fits
  refine ⟨next, ?_⟩
  rw [next]
  rfl

/-- Requests move the offset by what each of them asks for. -/
theorem arenaAfter_eq {count : Nat} (fits : arena.used + count * arena.asked size < sizeLimit) :
    arenaAfter size count arena =
      { arena with used := arena.used + count * arena.asked size } := by
  induction count generalizing arena with
  | zero => rw [Nat.zero_mul]; rfl
  | succ count ih =>
    rw [Nat.succ_mul] at fits
    obtain ⟨next, same⟩ := asked_allocate arena size (by omega)
    have used : (allocate size arena).state.used = arena.used + arena.asked size := by rw [next]
    rw [arenaAfter, ih (by rw [same, used]; omega), same, used, next, Nat.succ_mul, Nat.add_assoc,
      Nat.add_comm (arena.asked size)]

theorem filterMap_answers (size count : Nat) (arena : Arena) :
    (answers size count arena).filterMap Except.toOption =
      arena.granted (List.replicate count size) := by
  induction count generalizing arena with
  | zero => rfl
  | succ count ih =>
    rw [answers, List.replicate_succ, Arena.granted, List.filterMap_cons, ih]
    cases (allocate size arena).answer <;> rfl

theorem demand_replicate (arena : Arena) (count size : Nat) :
    arena.demand (List.replicate count size) = count * arena.asked size := by
  induction count with
  | zero => rw [Nat.zero_mul]; rfl
  | succ count ih => rw [List.replicate_succ, demand_cons, ih, Nat.succ_mul, Nat.add_comm]

/-- As many requests are served as blocks fit. -/
theorem granted_length {count : Nat} (pos : 0 < arena.asked size)
    (fits : arena.used + count * arena.asked size < sizeLimit) :
    (arena.granted (List.replicate count size)).length =
      min count ((arena.capacity - arena.used) / arena.asked size) := by
  -- Once a request is refused for lack of space, the offset is beyond every later one too.
  induction count generalizing arena with
  | zero => rw [Nat.zero_min]; rfl
  | succ count ih =>
    rw [Nat.succ_mul] at fits
    obtain ⟨next, same⟩ := asked_allocate arena size (by omega)
    have used : (allocate size arena).state.used = arena.used + arena.asked size := by rw [next]
    have capacity : (allocate size arena).state.capacity = arena.capacity := by rw [next]
    have rest := @ih (allocate size arena).state (by rwa [same]) (by rw [same, used]; omega)
    rw [same, used, capacity] at rest
    rw [List.replicate_succ, Arena.granted]
    by_cases room : arena.used + arena.asked size ≤ arena.capacity
    · rw [Arena.allocate_eq_ok_iff.mpr ⟨pos, room, rfl⟩]
      have whole : (arena.capacity - arena.used) / arena.asked size =
          (arena.capacity - (arena.used + arena.asked size)) / arena.asked size + 1 := by
        rw [Nat.div_eq_sub_div pos (by omega), Nat.sub_sub]
      dsimp only
      rw [List.length_cons, rest, whole]
      omega
    · have none : (arena.capacity - arena.used) / arena.asked size = 0 :=
        Nat.div_eq_of_lt (by omega)
      have none' : (arena.capacity - (arena.used + arena.asked size)) / arena.asked size = 0 :=
        Nat.div_eq_of_lt (by omega)
      cases answer : (allocate size arena).answer with
      | ok block => exact absurd (Arena.allocate_eq_ok_iff.mp answer).2.1 room
      | error cause =>
        dsimp only
        rw [rest, none, none', Nat.min_zero, Nat.min_zero]

/-- Ranges each of which ends before the next one starts do not overlap. -/
theorem overlaps_eq_zero {ranges : List (Nat × Nat)}
    (rising : ranges.Pairwise fun first next => first.2 ≤ next.1) : overlaps ranges = 0 := by
  induction ranges with
  | nil => rfl
  | cons first rest ih =>
    obtain ⟨above, rising'⟩ := List.pairwise_cons.mp rising
    cases rest with
    | nil => rfl
    | cons next rest =>
      have apart : ¬ next.1 < first.2 := Nat.not_lt.mpr (above next List.mem_cons_self)
      have none := ih rising'
      unfold overlaps at none ⊢
      rw [List.tail_cons, List.zip_cons_cons, List.countP_cons_of_neg (by simpa using apart)]
      exact none

/-- Blocks that were given one beyond the other need no sorting. -/
theorem ranges_of_rising {given : List (Except AllocError Block)}
    (rising : (given.filterMap Except.toOption).Pairwise fun first next =>
      first.reservedEnd ≤ next.offset) :
    ranges given = (given.filterMap Except.toOption).map fun block =>
      (block.offset, block.reservedEnd) := by
  refine List.mergeSort_of_pairwise (List.pairwise_map.mpr (rising.imp fun {first next} ends => ?_))
  have len := first.len_le_reserved
  exact decide_eq_true (by omega)

/-- The answers that are not blocks are the rest. -/
theorem countP_isNone (given : List (Except AllocError Block)) :
    given.countP (fun answer => answer.toOption.isNone) =
      given.length - (given.filterMap Except.toOption).length := by
  induction given with
  | nil => rfl
  | cons answer given ih =>
    have fewer := List.length_filterMap_le Except.toOption given
    cases answer with
    | error cause =>
      have refused : (Except.error cause : Except AllocError Block).toOption = none := rfl
      rw [List.countP_cons_of_pos rfl, List.filterMap_cons_none refused, List.length_cons, ih]
      omega
    | ok block =>
      have served : (Except.ok block : Except AllocError Block).toOption = some block := rfl
      rw [List.countP_cons_of_neg (by simp [served]), List.filterMap_cons_some served,
        List.length_cons, List.length_cons, ih, Nat.add_sub_add_right]

/-- The totals of any schedule, where the requests do not take the offset around 2 ^ 64: those that
are refused are the ones that were not granted, and nothing overlaps. -/
theorem totals_of_fits {schedule : List Nat} (order : schedule.Perm (inTurn threads allocs))
    (fits : arena.used + threads * allocs * arena.asked size < sizeLimit) :
    let granted := arena.granted (List.replicate (threads * allocs) size)
    totals threads size schedule arena =
      ⟨granted.length, threads * allocs - granted.length, 0,
        arena.used + threads * allocs * arena.asked size, arena.capacity⟩ := by
  have rising := @granted_rising arena (List.replicate (threads * allocs) size)
    (by rwa [demand_replicate])
  rw [← filterMap_answers] at rising
  have sorted := ranges_of_rising rising
  have apart : overlaps (ranges (answers size (threads * allocs) arena)) = 0 := by
    rw [sorted]
    exact overlaps_eq_zero (List.pairwise_map.mpr rising)
  have served : (ranges (answers size (threads * allocs) arena)).length =
      (arena.granted (List.replicate (threads * allocs) size)).length := by
    rw [sorted, List.length_map, filterMap_answers]
  simp only [totals_of_schedule order, apart, served, countP_isNone, length_answers,
    filterMap_answers, arenaAfter_eq fits]

/-! ## 5. Results -/

/-- The totals of a run on a new arena, in closed form. -/
structure Exact (grants : Nat → Bool) (schedule : List Nat) (threads allocs size capacity : Nat)
    (report : Totals) : Prop where
  /-- As many requests are served as blocks fit, and the others move the offset all the same. -/
  fitting : ∀ {padded}, padded? size = some padded → 0 < size → padded ≤ capacity →
    threads * allocs * padded < sizeLimit →
      report = ⟨min (threads * allocs) (capacity / padded),
        threads * allocs - min (threads * allocs) (capacity / padded), 0,
        threads * allocs * padded, capacity⟩
  /-- Requests that could never be served, also as rounding passes 2 ^ 64, leave the arena alone. -/
  unfit : (size = 0 ∨ ∀ padded, padded? size = some padded → capacity < padded) →
    report = ⟨0, threads * allocs, 0, 0, capacity⟩
  /-- Without a given capacity, the arena is as large as the blocks together. -/
  whole : exactCapacity? threads allocs size = some capacity →
    report = ⟨threads * allocs, 0, 0, capacity, capacity⟩
  /-- The totals are what is printed, provided that all the threads are started and none is lost. -/
  printed : ∀ {given}, Stress.capacity threads allocs size given = .ok capacity →
    run grants (.started schedule 0) threads allocs size given =
      .ok (summary threads allocs size report)

/-- The default capacity is that of all blocks, padding included. -/
theorem exactCapacity_eq_some {capacity : Nat}
    (known : exactCapacity? threads allocs size = some capacity) :
    ∃ padded, padded? size = some padded ∧ capacity = threads * allocs * padded ∧
      capacity < sizeLimit := by
  unfold exactCapacity? at known
  obtain ⟨padded, rounded, known⟩ := Option.bind_eq_some_iff.mp known
  dsimp only at known
  split at known
  · replace known : (if padded * allocs * threads < sizeLimit then
        some (padded * allocs * threads) else none) = some capacity := known
    split at known <;> cases known
    next fits =>
      refine ⟨padded, rounded, ?_, fits⟩
      rw [Nat.mul_comm, Nat.mul_comm padded, Nat.mul_assoc]
  · cases known

/-- What one request asks of a new arena that a block of its size would fit. -/
theorem asked_new {capacity padded : Nat} (made : (Arena.new grants capacity).answer = .ok arena)
    (rounded : padded? size = some padded) (pos : 0 < size) (fits : padded ≤ capacity) :
    arena.asked size = padded := by
  rw [Arena.eq_of_new made]
  unfold Arena.asked
  rw [rounded]
  exact if_pos ⟨rfl, Nat.ne_of_gt pos, fits⟩

/-- A request that no block could serve asks for nothing. -/
theorem asked_of_unfit (unfit : size = 0 ∨ ∀ padded, padded? size = some padded →
    arena.capacity < padded) : arena.asked size = 0 := by
  refine Nat.eq_zero_of_not_pos fun pos => ?_
  obtain ⟨rounded, -, some, inside⟩ := Arena.asked_eq_of_pos pos
  rcases unfit with none | large
  · omega
  · exact absurd (large _ rounded) (Nat.not_lt.mpr inside)

theorem granted_of_unfit (none : arena.asked size = 0) (count : Nat) :
    arena.granted (List.replicate count size) = [] := by
  induction count generalizing arena with
  | zero => rfl
  | succ count ih =>
    obtain ⟨used, moved⟩ := Arena.exists_state_allocate arena size
    have same : (allocate size arena).state.asked size = arena.asked size := by
      rw [moved]
      rfl
    rw [List.replicate_succ, Arena.granted]
    cases answer : (allocate size arena).answer with
    | ok block =>
      have pos := (Arena.allocate_eq_ok_iff.mp answer).1
      omega
    | error cause => exact ih (same.trans none)

theorem totals_fitting {capacity padded : Nat} (made : (Arena.new grants capacity).answer = .ok arena)
    {schedule : List Nat} (order : schedule.Perm (inTurn threads allocs))
    (rounded : padded? size = some padded) (pos : 0 < size) (inside : padded ≤ capacity)
    (fits : threads * allocs * padded < sizeLimit) :
    totals threads size schedule arena =
      ⟨min (threads * allocs) (capacity / padded),
        threads * allocs - min (threads * allocs) (capacity / padded), 0,
        threads * allocs * padded, capacity⟩ := by
  have asked := asked_new made rounded pos inside
  have larger := (padded?_eq_some_iff.mp rounded).2.2.1
  have used : arena.used = 0 := (Arena.room_of_new made).2
  have same : arena.capacity = capacity := by rw [Arena.eq_of_new made]
  have fits' : arena.used + threads * allocs * arena.asked size < sizeLimit := by
    rwa [asked, used, Nat.zero_add]
  have count := granted_length (by omega) fits'
  rw [used, same, asked, Nat.sub_zero] at count
  rw [totals_of_fits order fits', count, used, same, asked, Nat.zero_add]

theorem totals_unfit {capacity : Nat} (made : (Arena.new grants capacity).answer = .ok arena)
    {schedule : List Nat} (order : schedule.Perm (inTurn threads allocs))
    (unfit : size = 0 ∨ ∀ padded, padded? size = some padded → capacity < padded) :
    totals threads size schedule arena = ⟨0, threads * allocs, 0, 0, capacity⟩ := by
  have used : arena.used = 0 := (Arena.room_of_new made).2
  have same : arena.capacity = capacity := by rw [Arena.eq_of_new made]
  have asked : arena.asked size = 0 := asked_of_unfit (by rwa [same])
  have fits : arena.used + threads * allocs * arena.asked size < sizeLimit := by
    rw [asked, used]
    exact Arena.sizeLimit_pos
  rw [totals_of_fits order fits, granted_of_unfit asked, used, same, asked]
  rfl

/-- With the default capacity every request is served, and nothing is left. -/
theorem totals_whole {capacity : Nat} (made : (Arena.new grants capacity).answer = .ok arena)
    {schedule : List Nat} (order : schedule.Perm (inTurn threads allocs))
    (exact : exactCapacity? threads allocs size = some capacity) :
    totals threads size schedule arena = ⟨threads * allocs, 0, 0, capacity, capacity⟩ := by
  obtain ⟨padded, rounded, whole, fits⟩ := exactCapacity_eq_some exact
  have some : 0 < threads * allocs * padded := by
    refine Nat.pos_of_ne_zero fun none => ?_
    rw [whole, none] at made
    cases made
  have count : 0 < threads * allocs := Nat.pos_of_mul_pos_right some
  have padded' : 0 < padded := Nat.pos_of_mul_pos_left some
  have pos : 0 < size := by
    have := padded?_eq_some_iff.mp rounded
    omega
  have inside : padded ≤ capacity := whole ▸ Nat.le_mul_of_pos_left padded count
  rw [totals_fitting made order rounded pos inside (whole ▸ fits), ← whole, whole,
    Nat.mul_div_cancel _ padded', Nat.min_self, Nat.sub_self]

/-- The totals that the stress command prints do not depend on the order in which the threads'
requests take effect, and are exactly those that counting blocks gives. -/
theorem report_exact {capacity : Nat} (made : (Arena.new grants capacity).answer = .ok arena)
    {schedule : List Nat} (order : schedule.Perm (inTurn threads allocs)) (size : Nat) :
    Exact grants schedule threads allocs size capacity (totals threads size schedule arena) where
  fitting rounded pos inside fits := totals_fitting made order rounded pos inside fits
  unfit := totals_unfit made order
  whole exact := totals_whole made order exact
  printed {given} known := by
    unfold run
    rw [known]
    show ((Arena.new grants capacity).answer.mapError _ >>= _) = _
    rw [made]
    rfl

/-- Two threads that ask for three blocks of 24 bytes each, of which 100 bytes have room for three. -/
theorem report_exact_small :
    let arena : Arena := ⟨.empty, 100, 0, 0, true⟩
    Exact (fun _ => true) [1, 0, 1, 1, 0, 0] 2 3 24 100 (totals 2 24 [1, 0, 1, 1, 0, 0] arena) ∧
      totals 2 24 [1, 0, 1, 1, 0, 0] arena = ⟨3, 3, 0, 192, 100⟩ :=
  have exact : Exact (fun _ => true) [1, 0, 1, 1, 0, 0] 2 3 24 100
      (totals 2 24 [1, 0, 1, 1, 0, 0] ⟨.empty, 100, 0, 0, true⟩) :=
    report_exact rfl (by decide) 24
  have rounded : padded? 24 = some 32 := rfl
  ⟨exact, exact.fitting rounded (by decide) (by decide) (by decide)⟩

end HandleHeap.CommandLine.Stress
