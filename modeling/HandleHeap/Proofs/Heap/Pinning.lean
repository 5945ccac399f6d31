import HandleHeap.Proofs.Element.Pushing
import HandleHeap.Proofs.Heap.Inert
import HandleHeap.Proofs.Heap.Invariants

/-!
# Pins over whole runs

An operation makes one of few things of the placement that the table has for a handle: it leaves it,
issues the handle for an unpinned record, moves the record and keeps kind and pin, sets the pin, or
ends the handle (`Operation.Turns`). What pins are set, and where pinned records are, follows for
every run.

* `turns_perform`: what one operation makes of one handle.
* `pinned_of_run`: a live handle is pinned if its latest `pin` or `unpin` was a `pin`, and its record
  stays where it is until it is unpinned, ended, or grown as an array.
-/

namespace HandleHeap

open HandleHeap.Action

namespace Operation

/-! ## 1. What an operation does to one handle -/

/-- The pin that an operation sets for a handle. -/
def pin? (handle : Handle) : Operation Handle → Option Bool
  | pin target => if target = handle then some true else none
  | unpin target => if target = handle then some false else none
  | _ => none

/-- An operation may grow the record of a handle: as a property array, or as the element array of
an object that is pushed to. -/
def Grows (heap : Heap) (handle : Handle) : Operation Handle → Prop
  | growProperties storage _ => storage = handle
  | pushElement object _ => heap.HasElements object handle
  | _ => False

/-- An operation is there to end a handle. -/
def Ends (handle : Handle) : Operation Handle → Prop
  | invalidate target => target = handle
  | reset | teardown => True
  | _ => False

/-- An operation may point a handle to another block. A pinned record is not relocated. -/
def Moves (heap : Heap) (handle : Handle) (operation : Operation Handle) : Prop :=
  operation = relocate handle ∧ heap.isPinned handle = false ∨ operation.Grows heap handle

/-- What an operation makes of the placement of a handle. -/
inductive Turns (heap : Heap) (handle : Handle) (operation : Operation Handle) :
    Option Placement → Option Placement → Prop
  | kept {known : Option Placement} : operation.pin? handle = none →
    Turns heap handle operation known known
  | made {block : Block} {kind : RecordKind} : operation.pin? handle = none →
    Turns heap handle operation none (some ⟨block, kind, false⟩)
  | moved {placement : Placement} {block : Block} : operation.pin? handle = none →
    operation.Moves heap handle →
      Turns heap handle operation (some placement) (some { placement with block })
  | repinned {known : Option Placement} {pinned : Bool} : operation.pin? handle = some pinned →
    Turns heap handle operation known (known.map fun placement => { placement with pinned })
  | ended {placement : Placement} : operation.Ends handle →
    Turns heap handle operation (some placement) none

end Operation

namespace Heap

/-- What becomes of the placement of a handle that is neither ended nor pinned. It moves only if
`moves` holds. -/
inductive Shifts (moves : Prop) : Option Placement → Option Placement → Prop
  | kept (known : Option Placement) : Shifts moves known known
  | made (block : Block) (kind : RecordKind) : Shifts moves none (some ⟨block, kind, false⟩)
  | moved (placement : Placement) (block : Block) : moves →
    Shifts moves (some placement) (some { placement with block })

/-- The placement of a handle shifts from one heap to another. -/
def Shifting (moves : Prop) (handle : Handle) (before after : Heap) : Prop :=
  Shifts moves (before.handles.resolve handle) (after.handles.resolve handle)

/-- A handle is left as it is, or it is the target and is ended. -/
def Ending (target handle : Handle) (before after : Heap) : Prop :=
  after.handles.resolve handle = before.handles.resolve handle ∨
    handle = target ∧ after.handles.resolve handle = none

variable {moves moves' : Prop} {handle target : Handle} {heap : Heap}

/-! ## 2. Making and moving -/

theorem Shifts.trans {a b c : Option Placement} (first : Shifts moves a b)
    (second : Shifts moves b c) : Shifts moves a c := by
  cases first with
  | kept => exact second
  | made block kind =>
    cases second with
    | kept => exact .made block kind
    | moved _ later _ => exact .made later kind
  | moved placement block free =>
    cases second with
    | kept => exact .moved placement block free
    | moved _ later _ => exact .moved placement later free

theorem Shifts.mono {a b : Option Placement} (shifts : Shifts moves a b) (imp : moves → moves') :
    Shifts moves' a b := by
  cases shifts with
  | kept => exact .kept a
  | made block kind => exact .made block kind
  | moved placement block free => exact .moved placement block (imp free)

/-- A handle that was dead did not move. -/
theorem Shifts.of_none {b : Option Placement} (shifts : Shifts moves none b) :
    Shifts moves' none b := by
  cases shifts with
  | kept => exact .kept none
  | made block kind => exact .made block kind

instance : Chained (Shifting moves handle) where
  refl _ := .kept _
  trans first second := Shifts.trans first second

instance : KeptByArena (Shifting moves handle) where
  request _ _ := .kept _
  content _ _ _ _ := .kept _

instance : KeptByBuckets (Shifting moves handle) where
  buckets _ _ _ := .kept _

instance : KeptByRoots (Shifting moves handle) where
  roots _ _ := .kept _

instance : KeptByMaking (Shifting moves handle) where
  register heap block kind := by
    show Shifts moves (heap.handles.resolve handle)
      ((heap.handles.perform (.register ⟨block, kind, false⟩)).resolve handle)
    rcases run : HandleTable.register ⟨block, kind, false⟩ heap.handles with
      ⟨stop | issued, table, events⟩
    · have left := HandleTable.resolve_register_error run handle
      rw [← left]
      have after : heap.handles.perform (.register ⟨block, kind, false⟩) = table :=
        congrArg Outcome.state run
      rw [after]
      exact .kept _
    · obtain ⟨dead, resolve⟩ := HandleTable.resolve_register run
      have after : heap.handles.perform (.register ⟨block, kind, false⟩) = table :=
        congrArg Outcome.state run
      rw [after, resolve]
      by_cases own : handle = issued
      · rw [own, dead, if_pos rfl]
        exact .made block kind
      · rw [if_neg own]
        exact .kept _

theorem handles_onTable {α : Type} (action : Action Stop (HandleTable Placement) α) (heap : Heap) :
    (onTable action heap).state.handles = (action heap.handles).state := rfl

/-- A live record gets another block. -/
theorem shifting_retarget {old : Placement} (known : heap.handles.resolve target = some old)
    (block : Block) (free : target = handle → moves) :
    Shifting moves handle heap
      (onTable (HandleTable.relocate target { old with block }) heap).state := by
  have live : heap.handles.isLive target = true := HandleTable.isLive_iff.mpr ⟨old, known⟩
  rw [Shifting, handles_onTable, HandleTable.resolve_relocate live]
  by_cases own : handle = target
  · rw [own, if_pos rfl, known]
    exact .moved old block (free own.symm)
  · rw [if_neg own]
    exact .kept _

theorem shifting_growRecord (kind : RecordKind) (size : Nat) (free : target = handle → moves) :
    (growRecord target kind size).Keeps (Shifting moves handle) := by
  refine keeps_bind (keeps_look _) fun old =>
    keeps_bind (keeps_request (Arena.requests_reallocate ..) _) fun fresh => ⟨fun heap => ?_⟩
  refine related_look_bind fun placement found => ?_
  refine related_bind ?_ fun _ _ => (keeps_emit _).step _
  exact shifting_retarget (placement_eq_ok found) fresh free

theorem shifting_growProperties (storage : Handle) (capacity : UInt32) :
    (growProperties storage capacity).Keeps (Shifting (storage = handle) handle) := by
  refine keeps_bind (keeps_look _) fun current => ?_
  split
  · exact keeps_bind (keeps_look _) fun _ => keeps_pure _
  · exact shifting_growRecord _ _ id

theorem shifting_relocate (heap : Heap) (target : Handle) :
    Shifting (target = handle ∧ heap.isPinned handle = false) handle heap
      (relocate target heap).state := by
  refine related_look_bind fun placement found => ?_
  have known : heap.handles.resolve target = some placement := placement_eq_ok found
  split
  · exact Chained.refl heap
  · next unpinned =>
    have free (own : target = handle) : target = handle ∧ heap.isPinned handle = false := by
      refine ⟨own, ?_⟩
      rw [isPinned, ← own, known]
      exact Bool.eq_false_iff.mpr unpinned
    have requests := Arena.requests_allocate placement.block.len
    refine related_bind ((keeps_request requests _).step heap) fun fresh _ => ?_
    refine related_bind ((keeps_changeArena fresh fun arena => Arena.onlyIn_copy ..).step _)
      fun copied _ => ?_
    cases copied with
    | none => exact Chained.refl _
    | some _ =>
      refine related_bind ?_ fun _ _ => (keeps_emit _).step _
      -- Asking for a block and copying left the table as it was.
      exact shifting_retarget known fresh free

/-- A handle that was dead may be issued and ended again. -/
theorem shifting_end {object : Handle} {before middle : Heap} (dead : before.Dead object)
    (shifting : Shifting False handle before middle) :
    Shifting False handle before (onTable (HandleTable.invalidate object) middle).state := by
  rw [Shifting, handles_onTable, HandleTable.resolve_invalidate]
  by_cases own : handle = object
  · rw [own, dead_iff.mp dead, if_pos rfl]
    exact .kept none
  · rw [if_neg own]
    exact shifting

/-- The object is ended where there is no property array for it. -/
theorem shifting_makeObject (shape : Handle) (classId : UInt16) (slots : UInt32) :
    (makeObject shape classId slots).Keeps (Shifting False handle) := by
  refine ⟨fun heap => ?_⟩
  have made : Shifting False handle heap (allocRecord .object Layout.object.size heap).state :=
    (keeps_allocRecord ..).step heap
  rcases run : allocRecord .object Layout.object.size heap with ⟨stop | object, middle, events⟩ <;>
    rw [run] at made
  · rw [show makeObject shape classId slots heap = _ from bind_apply_of_error run]
    exact made
  have dead : heap.Dead object := dead_of_allocRecord (congrArg Outcome.answer run)
  rw [show makeObject shape classId slots heap = _ from bind_apply_of_ok run]
  by_cases some : 0 < slots
  · simp only [if_pos some]
    unfold furnishObject
    have tried : Shifting False handle middle (attempt (allocProperties slots) middle).state :=
      (keeps_attempt (keeps_allocRecord ..)).step middle
    rcases run : attempt (allocProperties slots) middle with ⟨stop | outcome, after, _⟩ <;>
      rw [run] at tried
    · rw [bind_apply_of_error run]
      exact Chained.trans made tried
    rw [bind_apply_of_ok run]
    cases outcome with
    | ok props =>
      exact Chained.trans made (Chained.trans tried ((keeps_fillObject ..).step after))
    | error e =>
      rw [state_bind_refuse]
      exact shifting_end dead (Chained.trans made tried)
  · simp only [if_neg some]
    exact Chained.trans made ((keeps_fillObject ..).step middle)

theorem shifting_allocObject (shape : Handle) (classId : UInt16) :
    (allocObject shape classId).Keeps (Shifting False handle) := by
  rw [allocObject_eq]
  split
  · exact keeps_bind (keeps_pure _) (shifting_makeObject shape classId)
  · exact keeps_bind (keeps_look _) (shifting_makeObject shape classId)

theorem shifting_storeElement (object values : Handle) (count : UInt32) (value : Value Handle) :
    (storeElement object values count value).Keeps (Shifting (values = handle) handle) := by
  refine keeps_bind (keeps_look _) fun capacity => ?_
  split
  · exact keeps_bind (shifting_growRecord _ _ id) fun _ => keeps_fillCell ..
  · exact keeps_fillCell ..

/-- An element array that the push attaches was dead before. -/
theorem shifting_pushElement (heap : Heap) (object : Handle) (value : Value Handle) :
    Shifting (heap.HasElements object handle) handle heap (pushElement object value heap).state := by
  rw [pushElement_eq]
  refine related_look_bind fun count _ => related_look_bind fun attached found => ?_
  by_cases null : attached.isNull = true
  · simp only [if_pos null]
    have attached : Shifting False handle heap (attachElements object heap).state :=
      (keeps_attachElements object).step heap
    rcases run : attachElements object heap with ⟨stop | values, middle, events⟩ <;>
      rw [run] at attached
    · rw [show (attachElements object >>= _) heap = _ from bind_apply_of_error run]
      exact attached.mono False.elim
    · have dead : heap.Dead values := dead_of_attachElements (congrArg Outcome.answer run)
      have stored : Shifting (values = handle) handle middle
          (storeElement object values count value middle).state :=
        (shifting_storeElement ..).step middle
      rw [show (attachElements object >>= _) heap = _ from bind_apply_of_ok run]
      by_cases own : values = handle
      · have shifts : Shifting (values = handle) handle heap _ :=
          Chained.trans (attached.mono False.elim) stored
        unfold Shifting at shifts ⊢
        rw [← own, dead_iff.mp dead] at shifts ⊢
        exact shifts.of_none
      · exact (attached.trans (stored.mono own)).mono False.elim
  · simp only [if_neg null]
    exact ((shifting_storeElement object attached count value).step heap).mono
      fun own => own ▸ found

/-! ## 3. Pinning and ending -/

theorem setPinned_of_known {placement : Placement}
    (known : heap.handles.resolve target = some placement) (pinned : Bool) :
    setPinned target pinned heap =
      onTable (HandleTable.relocate target { placement with pinned }) heap := by
  have found : heap.placement target = pure placement := by
    simp only [Heap.placement, known]
  exact look_bind_of_pure _ found

theorem resolve_setPinned (heap : Heap) (target : Handle) (pinned : Bool) (handle : Handle) :
    (setPinned target pinned heap).state.handles.resolve handle =
      if handle = target then
        (heap.handles.resolve handle).map fun placement => { placement with pinned }
      else heap.handles.resolve handle := by
  cases known : heap.handles.resolve target with
  | none =>
    rw [setPinned_of_dead (dead_iff.mpr known)]
    split
    · next own =>
      rw [own, known]
      rfl
    · rfl
  | some placement =>
    rw [setPinned_of_known known]
    have live : heap.handles.isLive target = true := HandleTable.isLive_iff.mpr ⟨placement, known⟩
    refine (HandleTable.resolve_relocate live _ handle).trans ?_
    split
    · next own =>
      rw [own, known]
      rfl
    · rfl

instance : Chained (Ending target handle) where
  refl _ := .inl rfl
  trans := by
    rintro a b c (kept | ⟨own, none⟩) (kept' | ended)
    · exact .inl (kept'.trans kept)
    · exact .inr ended
    · exact .inr ⟨own, kept'.trans none⟩
    · exact .inr ended

instance : KeptByArena (Ending target handle) where
  request _ _ := .inl rfl
  content _ _ _ _ := .inl rfl

instance : KeptByBuckets (Ending target handle) where
  buckets _ _ _ := .inl rfl

theorem ending_invalidate (target : Handle) : (invalidate target).Keeps (Ending target handle) := by
  refine keeps_invalidate ⟨fun heap => ?_⟩
  have resolve := HandleTable.resolve_invalidate target heap.handles handle
  by_cases own : handle = target
  · exact .inr ⟨own, resolve.trans (if_pos own)⟩
  · exact .inl (resolve.trans (if_neg own))

end Heap

/-! ## 4. One operation -/

namespace Operation

open Heap

variable {heap : Heap} {handle : Handle} {operation : Operation Handle}

theorem pin?_of_records (same : operation.changesRecords = false) :
    operation.pin? handle = none := by
  cases operation <;> first | rfl | cases same

theorem turns_of_shifts {moves : Prop} {known after : Option Placement}
    (spared : operation.pin? handle = none) (free : moves → operation.Moves heap handle)
    (shifts : Shifts moves known after) : operation.Turns heap handle known after := by
  cases shifts with
  | kept => exact .kept spared
  | made block kind => exact .made spared
  | moved placement block moved => exact .moved spared (free moved)

/-- An operation that sets pins turns the placement of its target. -/
theorem turns_setPinned (target : Handle) (pinned : Bool)
    (pin? : operation.pin? handle = if target = handle then some pinned else none) :
    operation.Turns heap handle (heap.handles.resolve handle)
      ((setPinned target pinned heap).state.handles.resolve handle) := by
  rw [resolve_setPinned]
  by_cases own : handle = target
  · rw [if_pos own]
    exact .repinned (pin?.trans (if_pos own.symm))
  · rw [if_neg own]
    exact .kept (pin?.trans (if_neg (Ne.symm own)))

theorem turns_of_ends {known : Option Placement} (ends : operation.Ends handle)
    (spared : operation.pin? handle = none) : operation.Turns heap handle known none := by
  cases known with
  | none => exact .kept spared
  | some placement => exact .ended ends

/-- What one operation makes of the placement of one handle, whatever it answers. -/
theorem turns_perform (heap : Heap) (operation : Operation Handle) (handle : Handle) :
    operation.Turns heap handle (heap.handles.resolve handle)
      ((operation.perform heap).state.handles.resolve handle) := by
  cases changes : operation.changesRecords with
  | false =>
    have onward : operation.rewinds = false := by
      cases operation <;> first | rfl | cases changes
    have keeps : operation.perform.Keeps (Shifting False handle) :=
      keeps_perform_of operation onward
        (fun changed => absurd (changes.symm.trans changed) Bool.false_ne_true)
        (fun _ => inferInstance) fun _ => inferInstance
    exact turns_of_shifts (pin?_of_records changes) False.elim (keeps.step heap)
  | true =>
    cases operation with
    | allocObject shape classId =>
      have shifting : Shifting False handle heap (Heap.allocObject shape classId heap).state :=
        (shifting_allocObject ..).step heap
      rw [show (perform (.allocObject shape classId) heap).state = _ from state_bind_pure ..]
      exact turns_of_shifts rfl False.elim shifting
    | growProperties storage capacity =>
      have shifting : Shifting (storage = handle) handle heap
          (Heap.growProperties storage capacity heap).state := (shifting_growProperties ..).step heap
      rw [show (perform (.growProperties storage capacity) heap).state = _ from state_bind_pure ..]
      exact turns_of_shifts rfl .inr shifting
    | pushElement object value =>
      have shifting : Shifting (heap.HasElements object handle) handle heap
          (Heap.pushElement object value heap).state := shifting_pushElement ..
      rw [show (perform (.pushElement object value) heap).state = _ from state_bind_pure ..]
      exact turns_of_shifts rfl .inr shifting
    | relocate target =>
      have shifting : Shifting (target = handle ∧ heap.isPinned handle = false) handle heap
          (Heap.relocate target heap).state := shifting_relocate ..
      rw [show (perform (.relocate target) heap).state = _ from state_bind_pure ..]
      exact turns_of_shifts rfl (fun ⟨own, free⟩ => .inl ⟨own ▸ rfl, free⟩) shifting
    | pin target =>
      rw [show (perform (.pin target) heap).state = _ from state_bind_pure ..]
      exact turns_setPinned target true rfl
    | unpin target =>
      rw [show (perform (.unpin target) heap).state = _ from state_bind_pure ..]
      exact turns_setPinned target false rfl
    | invalidate target =>
      rw [show (perform (.invalidate target) heap).state = _ from state_bind_pure ..]
      rcases (ending_invalidate target).step heap with kept | ⟨own, none⟩
      · rw [kept]
        exact .kept rfl
      · rw [none]
        exact turns_of_ends own.symm rfl
    | reset =>
      rw [show (perform .reset heap).state.handles.resolve handle = none from
        HandleTable.resolve_invalidateAll ..]
      exact turns_of_ends trivial rfl
    | teardown =>
      rw [state_teardown, show (heap.endAll).handles.resolve handle = none from
        HandleTable.resolve_invalidateAll ..]
      exact turns_of_ends trivial rfl
    | _ => cases changes

/-! ## 5. What is told of the pins -/

/-- What is told of the pins after an operation: a handle that it issued is not pinned, and a
successful `pin` or `unpin` is the latest. -/
def repinned (heap : Heap) (told : Handle → Bool) (operation : Operation Handle) : Handle → Bool :=
  fun handle =>
    let out := operation.perform heap
    if !heap.isLive handle && out.state.isLive handle then false
    else
      match operation.pin? handle, out.answer with
      | some pinned, .ok _ => pinned
      | _, _ => told handle

theorem eq_unpin_of_pin? (pin? : operation.pin? handle = some false) :
    operation = .unpin handle := by
  cases operation with
  | pin target => cases (Option.ite_none_right_eq_some.mp pin?).2
  | unpin target => rw [(Option.ite_none_right_eq_some.mp pin?).1]
  | _ => cases pin?

/-- Setting the pin of a live record succeeds. -/
theorem exists_answer_setPinned {placement : Placement}
    (known : heap.handles.resolve handle = some placement) {pinned : Bool}
    (pin? : operation.pin? handle = some pinned) :
    ∃ answer, (operation.perform heap).answer = .ok answer := by
  have sets (pinned : Bool) : ((doing (setPinned handle pinned)) heap).answer = .ok .done := by
    have live : heap.handles.isLive handle = true := HandleTable.isLive_iff.mpr ⟨placement, known⟩
    have run : setPinned handle pinned heap = ⟨.ok (), (setPinned handle pinned heap).state, []⟩ := by
      rw [setPinned_of_known known]
      simp only [onTable, HandleTable.relocate, if_pos live]
    exact answer_bind_of_ok run
  cases operation with
  | pin target =>
    obtain ⟨own, -⟩ := Option.ite_none_right_eq_some.mp pin?
    exact ⟨.done, own ▸ sets true⟩
  | unpin target =>
    obtain ⟨own, -⟩ := Option.ite_none_right_eq_some.mp pin?
    exact ⟨.done, own ▸ sets false⟩
  | _ => cases pin?

end Operation

namespace Heap

variable {heap : Heap}

theorem isPinned_perform {told : Handle → Bool} {handle : Handle}
    (holds : heap.isPinned handle = (heap.isLive handle && told handle))
    (operation : Operation Handle) :
    (operation.perform heap).state.isPinned handle =
      ((operation.perform heap).state.isLive handle && operation.repinned heap told handle) := by
  have turns := operation.turns_perform heap handle
  obtain ⟨known, was⟩ : ∃ known, heap.handles.resolve handle = known := ⟨_, rfl⟩
  obtain ⟨known', is⟩ : ∃ known, (operation.perform heap).state.handles.resolve handle = known :=
    ⟨_, rfl⟩
  rw [was, is] at turns
  simp only [isPinned, isLive, HandleTable.isLive, Operation.repinned, was, is] at holds ⊢
  cases turns with
  | kept spared =>
    rw [spared]
    cases known with
    | none => rfl
    | some placement => exact holds
  | made spared => rfl
  | moved spared moves =>
    rw [spared]
    exact holds
  | repinned pin? =>
    cases known with
    | none => rfl
    | some placement =>
      obtain ⟨answer, answered⟩ := Operation.exists_answer_setPinned was pin?
      rw [pin?, answered]
      rfl
  | ended ends => rfl

theorem isPinned_run {told : Handle → Bool} {handle : Handle}
    (holds : heap.isPinned handle = (heap.isLive handle && told handle))
    (operations : List (Operation Handle)) :
    (heap.run operations).isPinned handle =
      ((heap.run operations).isLive handle &&
        follow Operation.repinned heap told operations handle) := by
  induction operations generalizing heap told with
  | nil => exact holds
  | cons operation rest ih => exact ih (isPinned_perform holds operation)

/-! ## 6. Pinned records -/

/-- Only an operation that is there for it ends a handle. -/
theorem isLive_perform {handle : Handle} (live : heap.isLive handle = true)
    {operation : Operation Handle} (lasts : ¬ operation.Ends handle) :
    (operation.perform heap).state.isLive handle = true := by
  obtain ⟨placement, known⟩ := HandleTable.isLive_iff.mp live
  have turns := operation.turns_perform heap handle
  obtain ⟨after, is⟩ : ∃ after, (operation.perform heap).state.handles.resolve handle = after :=
    ⟨_, rfl⟩
  rw [known, is] at turns
  rw [isLive, HandleTable.isLive, is]
  cases turns with
  | ended ends => exact absurd ends lasts
  | _ => rfl

theorem relocate_of_pinned {handle : Handle} {placement : Placement}
    (known : heap.handles.resolve handle = some placement) (pinned : placement.pinned = true) :
    relocate handle heap = ⟨.error (.refused .pinned), heap, []⟩ := by
  have found : heap.placement handle = pure placement := by
    simp only [Heap.placement, known]
  rw [show relocate handle heap = _ from look_bind_of_pure _ found, if_pos pinned]
  rfl

/-- What an operation makes of a pinned record that it does not end. -/
theorem pinned_perform {handle : Handle} {placement : Placement}
    (known : heap.handles.resolve handle = some placement) (pinned : placement.pinned = true)
    (operation : Operation Handle)
    (lives : (operation.perform heap).state.isLive handle = true) :
    let after := (operation.perform heap).state.handles.resolve handle
    after = some placement ∨
      operation = .unpin handle ∧ after = some { placement with pinned := false } ∨
      operation.Grows heap handle ∧ ∃ block, after = some { placement with block } := by
  have turns := operation.turns_perform heap handle
  obtain ⟨after, is⟩ : ∃ after, (operation.perform heap).state.handles.resolve handle = after :=
    ⟨_, rfl⟩
  rw [isLive, HandleTable.isLive, is] at lives
  rw [known, is] at turns
  rw [is]
  cases turns with
  | kept => exact .inl rfl
  | moved spared moves =>
    rcases moves with ⟨-, free⟩ | grows
    · rw [isPinned, known] at free
      exact absurd (pinned.symm.trans free) Bool.noConfusion
    · exact .inr (.inr ⟨grows, _, rfl⟩)
  | @repinned _ set pin? =>
    cases set with
    | true => exact .inl (by rw [Option.map_some, ← pinned])
    | false => exact .inr (.inl ⟨Operation.eq_unpin_of_pin? pin?, rfl⟩)
  | ended => cases lives

/-- A run neither ends, unpins nor grows the record of a handle. -/
def HoldsStill (handle : Handle) : Heap → List (Operation Handle) → Prop
  | _, [] => True
  | heap, operation :: rest =>
    ¬ operation.Ends handle ∧ operation ≠ .unpin handle ∧ ¬ operation.Grows heap handle ∧
      HoldsStill handle (operation.perform heap).state rest

theorem resolve_of_still {handle : Handle} {placement : Placement}
    (known : heap.handles.resolve handle = some placement) (pinned : placement.pinned = true)
    (operations : List (Operation Handle)) (still : heap.HoldsStill handle operations) :
    (heap.run operations).handles.resolve handle = some placement := by
  induction operations generalizing heap with
  | nil => exact known
  | cons operation rest ih =>
    obtain ⟨lasts, keeps, fixed, still⟩ := still
    have live : heap.isLive handle = true := HandleTable.isLive_iff.mpr ⟨placement, known⟩
    refine ih ?_ still
    rcases pinned_perform known pinned operation (isLive_perform live lasts) with
      same | ⟨unpins, -⟩ | ⟨grows, -⟩
    · exact same
    · exact absurd unpins keeps
    · exact absurd grows fixed

/-! ## 7. Result -/

/-- After any run of operations from a new heap, a handle is pinned if it is live and its latest
successful `pin` or `unpin` since it was issued was a `pin`. While it is pinned, `relocate` refuses
it and leaves the whole heap as it is, and its record moves only when it grows as a property array or
as the element array of an object that is pushed to, which keeps the pin. -/
theorem pinned_of_run {grants : Nat → Bool} {config : Config} {start : Heap}
    (made : (Heap.new grants config).answer = .ok start)
    (operations : List (Operation Handle)) (handle : Handle) :
    let heap := start.run operations
    heap.isPinned handle = (heap.isLive handle &&
        follow Operation.repinned start (fun _ => false) operations handle) ∧
      ∀ placement, heap.handles.resolve handle = some placement → placement.pinned = true →
        relocate handle heap = ⟨.error (.refused .pinned), heap, []⟩ ∧
        (∀ operation : Operation Handle, (operation.perform heap).state.isLive handle = true →
          let after := (operation.perform heap).state.handles.resolve handle
          after = some placement ∨
            operation = .unpin handle ∧ after = some { placement with pinned := false } ∨
            operation.Grows heap handle ∧ ∃ block, after = some { placement with block }) ∧
        ∀ later, heap.HoldsStill handle later →
          (heap.run later).handles.resolve handle = some placement := by
  intro heap
  obtain ⟨-, table, -⟩ := new_eq_ok made
  have first : start.isPinned handle = (start.isLive handle && false) := by
    rw [isPinned, HandleTable.resolve_withCapacity table, Bool.and_false]
    rfl
  refine ⟨isPinned_run first operations, fun placement known pinned => ⟨?_, ?_, ?_⟩⟩
  · exact relocate_of_pinned known pinned
  · intro operation lives
    exact pinned_perform known pinned operation lives
  · intro later still
    exact resolve_of_still known pinned later still

/-- A property array that is pinned, grows, and stays where it is when it should be relocated. -/
def pinnedSession : List (Operation Handle) :=
  [.allocProperties 2, .pin ⟨1, 0⟩, .growProperties ⟨1, 0⟩ 4, .relocate ⟨1, 0⟩]

/-- The array is pinned after that session, and is not moved by other records. The next record at its
index is not pinned. -/
theorem pinned_small :
    let heap := newSmall.run pinnedSession
    (Heap.new (fun _ => true) { arenaCapacity := 1024 }).answer = .ok newSmall ∧
      heap.isPinned ⟨1, 0⟩ = true ∧
      relocate ⟨1, 0⟩ heap = ⟨.error (.refused .pinned), heap, []⟩ ∧
      (heap.run [.allocElements 1, .relocate ⟨2, 0⟩]).handles.resolve ⟨1, 0⟩ =
        heap.handles.resolve ⟨1, 0⟩ ∧
      (newSmall.run (pinnedSession ++ [.invalidate ⟨1, 0⟩, .allocElements 1])).isPinned ⟨1, 1⟩ =
        false := by
  have known : (newSmall.run pinnedSession).handles.resolve ⟨1, 0⟩ =
      some ⟨⟨48, 96, 0⟩, .propertyArray, true⟩ := by decide +kernel
  have run := pinned_of_run new_small
  obtain ⟨-, kept⟩ := run pinnedSession ⟨1, 0⟩
  obtain ⟨refused, -, still⟩ := kept _ known rfl
  have later := still [.allocElements 1, .relocate ⟨2, 0⟩]
    ⟨id, nofun, id, id, nofun, id, trivial⟩
  have reused := (run (pinnedSession ++ [.invalidate ⟨1, 0⟩, .allocElements 1]) ⟨1, 1⟩).1
  refine ⟨new_small, ?_, refused, later.trans known.symm, reused.trans (by decide +kernel)⟩
  rw [isPinned, known]
  rfl

end Heap

end HandleHeap
