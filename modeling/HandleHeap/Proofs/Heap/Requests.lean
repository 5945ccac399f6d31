import HandleHeap.Proofs.Element.Pushing

/-!
# What an action tells of its requests

An action makes requests of the arena one after the other, and ends with the first that is turned
down. What it tells of a lack of space is what it tells of that request.

* `Arena.Serves`, `Arena.after`: requests that are all served, and an arena after some were made.
* `Exhaustion`: what is told of a request that is turned down, to the caller and to the observer.
  `Exhaustion.offset_eq_iff` says when the caller is told the offset at which it was made.
* `Tells`: what an outcome tells of requests. `Tells.bind` puts outcomes together.
* `Report.Quiet`, `Silent`: what makes no request, and so tells of none.
-/

namespace HandleHeap

open HandleHeap.Action Report

/-! ## 1. Requests -/

/-- A request that an operation makes of the arena. -/
structure Request where
  /-- The bytes asked for, without padding. -/
  size : Nat
  /-- Whether the block is to replace the shorter one of a record. -/
  grows : Bool
  deriving DecidableEq

/-- What an observer is told of requests that reached the offset and found no space: the bytes asked
for, the offset and the capacity. -/
def exhaustions (events : List Event) : List (Nat × Nat × Nat) :=
  events.filterMap fun
    | .arenaExhausted requested offset capacity => some (requested, offset, capacity)
    | _ => none

@[simp]
theorem exhaustions_nil : exhaustions [] = [] := rfl

@[simp]
theorem exhaustions_append (first rest : List Event) :
    exhaustions (first ++ rest) = exhaustions first ++ exhaustions rest :=
  List.filterMap_append

namespace Arena

/-- An arena after requests were made of it, one after the other. -/
def after (arena : Arena) (requests : List Request) : Arena :=
  requests.foldl (fun arena request => (allocate request.size arena).state) arena

/-- All of some requests are served, one after the other. -/
def Serves (arena : Arena) : List Request → Prop
  | [] => True
  | request :: requests =>
    (∃ block, (allocate request.size arena).answer = .ok block) ∧
      (allocate request.size arena).state.Serves requests

theorem after_append (arena : Arena) (first rest : List Request) :
    arena.after (first ++ rest) = (arena.after first).after rest := List.foldl_append

theorem serves_append {arena : Arena} {first rest : List Request} :
    arena.Serves (first ++ rest) ↔ arena.Serves first ∧ (arena.after first).Serves rest := by
  induction first generalizing arena with
  | nil => simp only [List.nil_append, Serves, after, List.foldl_nil, true_and]
  | cons request first ih => exact (and_congr_right fun _ => ih).trans and_assoc.symm

/-- Requests do not change the capacity. -/
@[simp]
theorem capacity_after (arena : Arena) (requests : List Request) :
    (arena.after requests).capacity = arena.capacity := by
  induction requests generalizing arena with
  | nil => rfl
  | cons request requests ih =>
    obtain ⟨used, moved⟩ := exists_state_allocate arena request.size
    show ((allocate request.size arena).state.after requests).capacity = _
    rw [ih, moved]

/-- Arenas that turn down the same requests and tell the same offsets: they differ in what is stored
at most. -/
structure Alike (a b : Arena) : Prop where
  capacity : a.capacity = b.capacity
  used : a.used = b.used
  initialized : a.initialized = b.initialized

theorem Regular.after {arena : Arena} (regular : arena.Regular) (requests : List Request) :
    (arena.after requests).Regular := by
  induction requests generalizing arena with
  | nil => exact regular
  | cons request requests ih => exact ih (regular.allocate request.size)

theorem Alike.refl (arena : Arena) : arena.Alike arena := ⟨rfl, rfl, rfl⟩

theorem Alike.trans {a b c : Arena} (first : a.Alike b) (second : b.Alike c) : a.Alike c :=
  ⟨first.capacity.trans second.capacity, first.used.trans second.used,
    first.initialized.trans second.initialized⟩

theorem OnlyIn.alike {block : Block} {before after : Arena} (changed : OnlyIn block before after) :
    after.Alike before := ⟨changed.capacity, changed.used, changed.initialized⟩

theorem Alike.allocate {a b : Arena} (alike : a.Alike b) (size : Nat) :
    (Arena.allocate size a).state.Alike (Arena.allocate size b).state := by
  -- What a request asks for is decided by the capacity and by whether the arena is set up.
  have used : (Arena.allocate size a).state.used = (Arena.allocate size b).state.used := by
    rw [used_allocate, used_allocate, asked_congr alike.capacity alike.initialized, alike.used]
  obtain ⟨_, moved⟩ := exists_state_allocate a size
  obtain ⟨_, moved'⟩ := exists_state_allocate b size
  refine ⟨?_, used, ?_⟩
  · rw [moved, moved']
    exact alike.capacity
  · rw [moved, moved']
    exact alike.initialized

theorem Alike.given_iff {a b : Arena} (alike : a.Alike b) (size : Nat) :
    (∃ block, (Arena.allocate size a).answer = .ok block) ↔
      ∃ block, (Arena.allocate size b).answer = .ok block := by
  have asked := asked_congr alike.capacity alike.initialized size
  simp only [allocate_eq_ok_iff, asked, alike.used, alike.capacity, exists_and_left, exists_eq]

theorem Alike.serves {a b : Arena} (alike : a.Alike b) {requests : List Request} :
    a.Serves requests ↔ b.Serves requests := by
  induction requests generalizing a b with
  | nil => rfl
  | cons request requests ih =>
    exact and_congr (alike.given_iff request.size) (ih (alike.allocate request.size))

theorem Alike.after {a b : Arena} (alike : a.Alike b) (requests : List Request) :
    (a.after requests).Alike (b.after requests) := by
  induction requests generalizing a b with
  | nil => exact alike
  | cons request requests ih => exact ih (alike.allocate request.size)

end Arena

/-- What is told of a request that an arena turns down. -/
structure Exhaustion (arena : Arena) (request : Request) (size offset capacity : Nat)
    (warned : List (Nat × Nat × Nat)) : Prop where
  failed : ¬ ∃ block, (Arena.allocate request.size arena).answer = .ok block
  size : size = request.size
  capacity : capacity = arena.capacity
  /-- The offset at which the request was made, or, where a record was to grow, the one after it. -/
  offset : offset =
    if request.grows then (Arena.allocate request.size arena).state.used else arena.used
  /-- The observer is told if the request reached the offset. -/
  warned : warned =
    if 0 < arena.asked request.size then [(request.size, arena.used, arena.capacity)] else []

theorem Exhaustion.congr {a b : Arena} (alike : a.Alike b) {request : Request}
    {size offset capacity : Nat} {warned : List (Nat × Nat × Nat)}
    (told : Exhaustion a request size offset capacity warned) :
    Exhaustion b request size offset capacity warned := by
  have moved := (alike.allocate request.size).used
  have asked := Arena.asked_congr alike.capacity alike.initialized request.size
  refine ⟨fun given => told.failed ((alike.given_iff _).mpr given), told.size,
    told.capacity.trans alike.capacity, ?_, ?_⟩
  · rw [told.offset, moved, alike.used]
  · rw [told.warned, asked, alike.used, alike.capacity]

/-- The offset that is told is the one at which the request was made, unless a record was to grow
and the request has moved it. -/
theorem Exhaustion.offset_eq_iff {arena : Arena} (regular : arena.Regular) {request : Request}
    {size offset capacity : Nat} {warned : List (Nat × Nat × Nat)}
    (told : Exhaustion arena request size offset capacity warned) :
    offset = arena.used ↔ request.grows = false ∨ arena.asked request.size = 0 := by
  have few := regular.used_lt
  have asked := Arena.asked_lt arena request.size
  rw [told.offset, Arena.state_allocate few]
  cases request.grows with
  | false => simp
  | true =>
    simp only [if_true, Bool.true_eq_false, false_or]
    unfold sizeLimit at *
    omega

/-! ## 2. Reports -/

namespace Report

variable {α β : Type}

/-- A report that tells nothing of a lack of space. -/
structure Quiet (report : Report Stop α) : Prop where
  answer : ∀ cause, report.answer ≠ .error (.refused (.outOfMemory cause))
  events : exhaustions report.events = []

theorem quiet_pure (a : α) : (pure a : Report Stop α).Quiet := ⟨nofun, rfl⟩

theorem Quiet.bind {report : Report Stop α} {next : α → Report Stop β} (first : report.Quiet)
    (rest : ∀ a, (next a).Quiet) : (report >>= next).Quiet := by
  obtain ⟨answer, events⟩ := report
  cases answer with
  | ok a =>
    refine ⟨(rest a).answer, ?_⟩
    show exhaustions (events ++ (next a).events) = []
    rw [exhaustions_append, first.events, (rest a).events]
    rfl
  | error stop =>
    refine ⟨fun cause same => first.answer cause ?_, first.events⟩
    exact congrArg Except.error (Except.error.inj same)

theorem Quiet.withDefault {report : Report Stop α} (quiet : report.Quiet) (default : α) :
    (report.withDefault default).Quiet := by
  obtain ⟨answer, events⟩ := report
  rcases answer with (error | fault) | a
  · exact ⟨nofun, quiet.events⟩
  · exact ⟨nofun, quiet.events⟩
  · exact ⟨nofun, quiet.events⟩

end Report

namespace Heap

variable {heap : Heap} {α β : Type}

theorem quiet_locate (heap : Heap) (handle : Handle) (kind : RecordKind) :
    (heap.locate handle kind).Quiet := by
  unfold locate
  split
  · exact ⟨nofun, rfl⟩
  · split <;> exact ⟨nofun, rfl⟩

theorem quiet_placement (heap : Heap) (handle : Handle) : (heap.placement handle).Quiet := by
  unfold Heap.placement
  split <;> exact ⟨nofun, rfl⟩

theorem quiet_record (heap : Heap) (handle : Handle) (kind : RecordKind) :
    (heap.record handle kind).Quiet := by
  refine (quiet_locate ..).bind fun block => ?_
  split <;> exact ⟨nofun, rfl⟩

theorem quiet_slice (heap : Heap) (block : Block) (start len : Nat) :
    (heap.slice block start len).Quiet := by
  unfold slice
  split <;> exact ⟨nofun, rfl⟩

theorem quiet_cell (len : Nat) (index : UInt32) (stride : Nat) :
    (Report.ofExcept (cell len index stride)).Quiet := by
  unfold cell Report.ofExcept
  simp only
  split <;> exact ⟨nofun, rfl⟩

section Fields

variable {layout : Layout} {scalar : Scalar}

theorem quiet_tryGet (heap : Heap) (handle : Handle) (field : Field layout scalar) :
    (heap.tryGet handle field).Quiet :=
  (quiet_record ..).bind fun _ => (quiet_slice ..).bind fun _ => quiet_pure _

theorem quiet_get (heap : Heap) (handle : Handle) (field : Field layout scalar) :
    (heap.get handle field).Quiet := (quiet_tryGet ..).withDefault _

end Fields

theorem quiet_slotCapacity (heap : Heap) (storage : Handle) : (heap.slotCapacity storage).Quiet :=
  ((quiet_record ..).bind fun _ => quiet_pure _).withDefault _

theorem quiet_elementCapacity (heap : Heap) (object : Handle) :
    (heap.elementCapacity object).Quiet := by
  refine (quiet_get ..).bind fun values => ?_
  split
  · exact quiet_pure _
  · exact ((quiet_record ..).bind fun _ => quiet_pure _).withDefault _

theorem quiet_shapeMatches (heap : Heap) (shape proto : Handle) :
    (heap.shapeMatches shape proto).Quiet := by
  refine (quiet_get ..).bind fun hash => ?_
  split
  · exact quiet_pure _
  · refine (quiet_get ..).bind fun found => ?_
    split
    · exact quiet_pure _
    · exact (quiet_get ..).bind fun _ => quiet_pure _

theorem quiet_findShape (heap : Heap) (proto : Handle) : (heap.findShape proto).Quiet := by
  suffices all : ∀ remaining current, (heap.findFrom proto remaining current).Quiet from all _ _
  intro remaining
  induction remaining with
  | zero =>
    intro current
    unfold findFrom
    split <;> exact ⟨nofun, rfl⟩
  | succ remaining ih =>
    intro current
    unfold findFrom
    split
    · exact quiet_pure _
    · refine (quiet_shapeMatches ..).bind fun found => ?_
      split
      · exact quiet_pure _
      · exact (quiet_get ..).bind fun next => ih next

/-! ## 3. Outcomes -/

/-- What an outcome tells of the requests that were made for it. -/
structure Tells (requests : List Request) (heap : Heap) (out : Outcome Stop Heap α) : Prop where
  served : ∀ {a}, out.answer = .ok a → heap.arena.Serves requests ∧
    out.state.arena.Alike (heap.arena.after requests) ∧ exhaustions out.events = []
  refused : ∀ {size offset capacity},
    out.answer = .error (.refused (.outOfMemory (.exhausted size offset capacity))) →
      ∃ earlier request later, requests = earlier ++ request :: later ∧
        heap.arena.Serves earlier ∧
        Exhaustion (heap.arena.after earlier) request size offset capacity
          (exhaustions out.events)

/-- What is told of a first part that answers, and of the rest. -/
theorem Tells.andThen {here there : List Request} {a : α} {middle : Heap} {events : List Event}
    {rest : Outcome Stop Heap β} (told : Tells here heap ⟨.ok a, middle, events⟩)
    (told' : Tells there middle rest) :
    Tells (here ++ there) heap ⟨rest.answer, rest.state, events ++ rest.events⟩ := by
  obtain ⟨first, alike, silent⟩ := told.served rfl
  have alike : middle.arena.Alike (heap.arena.after here) := alike
  have events : exhaustions (events ++ rest.events) = exhaustions rest.events := by
    rw [exhaustions_append, silent, List.nil_append]
  constructor
  · intro b same
    obtain ⟨next, alike', silent'⟩ := told'.served same
    rw [Arena.after_append]
    exact ⟨Arena.serves_append.mpr ⟨first, alike.serves.mp next⟩,
      alike'.trans (alike.after there), events.trans silent'⟩
  · intro size offset capacity same
    obtain ⟨earlier, request, later, split, next, told'⟩ := told'.refused same
    refine ⟨here ++ earlier, request, later, by rw [split, List.append_assoc],
      Arena.serves_append.mpr ⟨first, alike.serves.mp next⟩, ?_⟩
    rw [events, Arena.after_append]
    exact told'.congr (alike.after earlier)

/-- The requests of the first part come first. -/
theorem Tells.bind {first : HeapAction α} {next : α → HeapAction β} {here there : List Request}
    (told : Tells here heap (first heap))
    (rest : ∀ {a}, (first heap).answer = .ok a →
      Tells there (first heap).state (next a (first heap).state)) :
    Tells (here ++ there) heap ((first >>= next) heap) := by
  rcases run : first heap with ⟨stop | a, after, events⟩ <;> rw [run] at told rest
  · rw [bind_apply_of_error run]
    refine ⟨nofun, fun same => ?_⟩
    obtain ⟨earlier, request, later, split, told⟩ :=
      told.refused (congrArg Except.error (Except.error.inj same))
    exact ⟨earlier, request, later ++ there, by rw [split]; simp, told⟩
  · rw [bind_apply_of_ok run]
    exact told.andThen (rest rfl)

/-- What is read asks for nothing. -/
theorem Tells.look_bind {report : Heap → Report Stop α} {next : α → HeapAction β}
    {requests : List Request} (quiet : (report heap).Quiet)
    (rest : ∀ {a}, (report heap).answer = .ok a → Tells requests heap (next a heap)) :
    Tells requests heap ((look report >>= next) heap) := by
  have told : Tells [] heap (look report heap) :=
    ⟨fun _ => ⟨trivial, .refl _, quiet.events⟩, fun same => absurd same (quiet.answer _)⟩
  exact told.bind rest

/-- A refusal that is passed on tells what it told. -/
theorem Tells.refused_again {requests : List Request} {error : HeapError} {after : Heap}
    {events : List Event}
    (told : Tells requests heap (⟨.error (.refused error), after, events⟩ : Outcome Stop Heap α))
    {rest : Outcome Stop Heap β} (silent : rest.events = [])
    (answer : rest.answer = .error (.refused error) ∨
      ∃ fault, rest.answer = .error (.fault fault)) :
    Tells requests heap ⟨rest.answer, rest.state, events ++ rest.events⟩ := by
  obtain ⟨_, state, _⟩ := rest
  cases silent
  rw [List.append_nil]
  rcases answer with rfl | ⟨fault, rfl⟩
  · exact ⟨nofun, fun same => told.refused (congrArg Except.error (Except.error.inj same))⟩
  · exact ⟨nofun, nofun⟩

/-! ## 4. What asks for nothing -/

/-- An action that makes no request of the arena, on any heap. -/
structure Silent (action : HeapAction α) : Prop where
  tells : ∀ heap, Tells [] heap (action heap)

theorem Silent.bind {first : HeapAction α} {next : α → HeapAction β} (silent : Silent first)
    (rest : ∀ a, Silent (next a)) : Silent (first >>= next) :=
  ⟨fun heap => (silent.tells heap).bind fun _ => (rest _).tells _⟩

theorem Silent.look_bind {report : Heap → Report Stop α} {next : α → HeapAction β}
    (quiet : ∀ heap, (report heap).Quiet) (rest : ∀ a, Silent (next a)) :
    Silent (look report >>= next) :=
  ⟨fun heap => .look_bind (quiet heap) fun _ => (rest _).tells heap⟩

/-- Nothing more is asked for. -/
theorem Tells.bind_silent {first : HeapAction α} {next : α → HeapAction β}
    {requests : List Request} (told : Tells requests heap (first heap))
    (rest : ∀ a, Silent (next a)) : Tells requests heap ((first >>= next) heap) :=
  List.append_nil requests ▸ told.bind fun _ => (rest _).tells _

/-- An action that tells nothing of the arena and moves no offset. -/
theorem Silent.of_quiet {action : HeapAction α}
    (arena : ∀ heap, (action heap).state.arena.Alike heap.arena)
    (events : ∀ heap, exhaustions (action heap).events = [])
    (answer : ∀ heap cause, (action heap).answer ≠ .error (.refused (.outOfMemory cause))) :
    Silent action :=
  ⟨fun heap =>
    ⟨fun _ => ⟨trivial, arena heap, events heap⟩, fun same => absurd same (answer heap _)⟩⟩

theorem silent_pure (a : α) : Silent (pure a) := .of_quiet (fun _ => .refl _) (fun _ => rfl) nofun

theorem silent_emit {event : Event} (other : exhaustions [event] = []) : Silent (emit event) :=
  .of_quiet (fun _ => .refl _) (fun _ => other) nofun

theorem silent_refuse {error : HeapError} (other : ∀ cause, error ≠ .outOfMemory cause) :
    Silent (refuse error : HeapAction α) :=
  .of_quiet (fun _ => .refl _) (fun _ => rfl) fun _ cause same =>
    other cause (Stop.refused.inj (Except.error.inj same))

theorem silent_fault (fault : Fault) : Silent (Action.fault fault : HeapAction α) :=
  .of_quiet (fun _ => .refl _) (fun _ => rfl) nofun

theorem silent_onBuckets (change : ShapeBuckets → ShapeBuckets) : Silent (onBuckets change) :=
  .of_quiet (fun _ => .refl _) (fun _ => rfl) nofun

/-- The table of handles asks the arena for nothing. -/
theorem silent_onTable {action : Action Stop (HandleTable Placement) α}
    (events : ∀ table, (action table).events = [])
    (answer : ∀ table cause, (action table).answer ≠ .error (.refused (.outOfMemory cause))) :
    Silent (onTable action) :=
  .of_quiet (fun _ => .refl _) (fun heap => congrArg exhaustions (events heap.handles)) fun heap =>
    answer heap.handles

theorem silent_register (placement : Placement) :
    Silent (onTable (HandleTable.register placement)) := by
  refine silent_onTable (events_register placement) fun table cause => ?_
  rcases HandleTable.register_cases placement table with full | ⟨index, start, run, -⟩
  · rw [full]
    intro same
    cases same
  · rw [run, HandleTable.occupy]
    split <;> intro same <;> cases same

theorem silent_retarget (handle : Handle) (placement : Placement) :
    Silent (onTable (HandleTable.relocate handle placement)) := by
  refine silent_onTable (fun table => ?_) fun table cause => ?_ <;> unfold HandleTable.relocate
  · split <;> rfl
  · split <;> nofun

/-- A change of the bytes of a block moves no offset. -/
theorem silent_changeArena {block : Block} {change : Arena → α × Arena}
    (changed : ∀ arena, Arena.OnlyIn block arena (change arena).2) : Silent (changeArena change) :=
  .of_quiet (fun heap => (changed heap.arena).alike) (fun _ => rfl) nofun

theorem silent_patch (block : Block) (start : Nat) (source : List UInt8) :
    Silent (patch block start source) := by
  unfold patch
  split
  · exact silent_changeArena fun arena => Arena.onlyIn_overwrite arena block start source
  · exact silent_fault _

theorem silent_set {layout : Layout} {scalar : Scalar} (handle : Handle)
    (field : Field layout scalar) (value : scalar.Carrier Handle) :
    Silent (set handle field value) :=
  .look_bind (fun heap => quiet_record heap handle _) fun _ => silent_patch ..

theorem silent_fillObject (shape object props : Handle) (classId : UInt16) :
    Silent (fillObject shape object props classId) :=
  (silent_set ..).bind fun _ => (silent_set ..).bind fun _ => (silent_set ..).bind fun _ =>
    (silent_set ..).bind fun _ => silent_pure _

theorem silent_fillCell (object array : Handle) (count : UInt32) (value : Value Handle) :
    Silent (fillCell object array count value) := by
  have cell : Silent (setCell array count value) :=
    .look_bind (fun heap => quiet_record heap array _) fun block =>
      .look_bind (fun _ => quiet_cell ..) fun _ => silent_patch ..
  refine cell.bind fun _ => ?_
  split
  · exact (silent_set ..).bind fun _ => silent_pure _
  · exact silent_fault _

theorem silent_hashShape (shape : Handle) : Silent (hashShape shape) := by
  refine .look_bind (fun heap => quiet_tryGet heap shape _) fun hashed => ?_
  split
  · exact silent_pure _
  · refine .look_bind (fun heap => quiet_tryGet heap shape _) fun hash => ?_
    refine .look_bind (fun heap => Report.quiet_pure _) fun first => ?_
    exact (silent_set ..).bind fun _ => (silent_set ..).bind fun _ => silent_onBuckets _

end Heap

end HandleHeap
