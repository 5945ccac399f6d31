import HandleHeap.Proofs.Heap.Intact

/-!
# Operations that do not fault

Operations are put together from parts that leave an intact heap intact, and that fault in it at
most where a shape is taken off the count of those in buckets. So no operation faults otherwise,
in any heap that a session reaches.

* `Safe`: an action leaves every intact heap intact and does not fault, but for that count.
  `Safe.bind`, `safe_look` and the like put safe actions together.
* `safe_perform`, `safe_walk`: operations are safe, and so are walks with safe bodies.
* `faultless_of_reached`: what that comes to in the heaps that a session reaches.
-/

namespace HandleHeap

open HandleHeap.Action Report

namespace Heap

variable {heap : Heap} {α β : Type}

/-! ## 1. Actions -/

/-- What is left is intact, and the only fault there may be is that of the count of hashed
shapes. -/
structure Fair (out : Outcome Stop Heap α) : Prop where
  intact : out.state.Intact
  fault : ∀ fault, out.answer = .error (.fault fault) → fault = .hashedCountUnderflow

/-- An action that is fair in every intact heap. -/
structure Safe (action : HeapAction α) : Prop where
  fair : ∀ heap : Heap, heap.Intact → Fair (action heap)

theorem fair_of_ok {out : Outcome Stop Heap α} (intact : out.state.Intact) {a : α}
    (ok : out.answer = .ok a) : Fair out := ⟨intact, fun _ h => nomatch ok.symm.trans h⟩

theorem fair_of_refused {out : Outcome Stop Heap α} (intact : out.state.Intact)
    {error : HeapError} (refused : out.answer = .error (.refused error)) : Fair out :=
  ⟨intact, fun _ h => nomatch refused.symm.trans h⟩

/-- The rest is fair in the heap that the first part leaves. -/
theorem Fair.bind {action : HeapAction α} {next : α → HeapAction β} (first : Fair (action heap))
    (rest : ∀ a after events, action heap = ⟨.ok a, after, events⟩ → after.Intact →
      Fair (next a after)) : Fair ((action >>= next) heap) := by
  rcases run : action heap with ⟨stop | a, after, events⟩ <;> rw [run] at first
  · rw [bind_apply_of_error run]
    exact ⟨first.intact, fun fault same =>
      first.fault fault (congrArg Except.error (Except.error.inj same))⟩
  · have last := rest a after events run first.intact
    rw [bind_apply_of_ok run]
    exact ⟨last.intact, last.fault⟩

theorem Safe.bind {action : HeapAction α} {next : α → HeapAction β} (first : Safe action)
    (rest : ∀ a, Safe (next a)) : Safe (action >>= next) :=
  ⟨fun heap intact => (first.fair heap intact).bind fun a after _ _ intact' =>
    (rest a).fair after intact'⟩

theorem safe_pure (a : α) : Safe (pure a : HeapAction α) :=
  ⟨fun _ intact => fair_of_ok intact rfl⟩

theorem safe_refuse (e : HeapError) : Safe (refuse e : HeapAction α) :=
  ⟨fun _ intact => fair_of_refused intact rfl⟩

theorem safe_emit (event : Event) : Safe (emit event : HeapAction Unit) :=
  ⟨fun _ intact => fair_of_ok intact rfl⟩

theorem safe_look {report : Heap → Report Stop α}
    (faultless : ∀ heap : Heap, heap.Intact → (report heap).Faultless) :
    Safe (look report : HeapAction α) :=
  ⟨fun heap intact => ⟨intact, fun fault h => absurd h ((faultless heap intact).answer fault)⟩⟩

/-- What is always there is read without a fault. -/
theorem safe_see (fact : Heap → α) :
    Safe (look fun heap => (pure (fact heap) : Report Stop α)) :=
  safe_look fun _ _ => faultless_pure _

theorem Safe.attempt {action : HeapAction α} (h : Safe action) : Safe action.attempt := by
  refine ⟨fun heap intact => ?_⟩
  have fair := h.fair heap intact
  unfold Action.attempt
  rcases run : action heap with ⟨(error | fault) | a, after, events⟩ <;> rw [run] at fair
  · exact fair_of_ok fair.intact rfl
  · exact ⟨fair.intact, fun fault same =>
      fair.fault fault (congrArg Except.error (Except.error.inj same))⟩
  · exact fair_of_ok fair.intact rfl

/-- What is done after a report depends on what it answers in the heap it is done in. -/
theorem Intact.look_bind (intact : heap.Intact) {report : Heap → Report Stop α}
    (faultless : (report heap).Faultless) {next : α → HeapAction β}
    (rest : ∀ a, (report heap).answer = .ok a → Fair (next a heap)) :
    Fair ((look report >>= next) heap) := by
  have first : Fair (look report heap) :=
    ⟨intact, fun fault h => absurd h (faultless.answer fault)⟩
  refine first.bind fun a after events run _ => ?_
  have same : heap = after := congrArg Outcome.state run
  subst same
  exact rest a (congrArg Outcome.answer run)

/-! ## 2. Parts of the heap -/

theorem safe_modify {change : Heap → Heap}
    (h : ∀ heap : Heap, heap.Intact → (change heap).Intact) :
    Safe (modify change : HeapAction Unit) :=
  ⟨fun heap intact => fair_of_ok (h heap intact) rfl⟩

theorem safe_onBuckets (change : ShapeBuckets → ShapeBuckets) : Safe (onBuckets change) :=
  safe_modify fun _ intact => intact.withBuckets _

theorem safe_changeArena {change : Arena → α × Arena}
    (h : ∀ arena, arena.Confined → (change arena).2.Confined) : Safe (changeArena change) :=
  ⟨fun heap intact => fair_of_ok (intact.withArena (h heap.arena intact.confined)) rfl⟩

/-- Work on the arena can be refused only. -/
theorem safe_onArena {ε : Type} {explain : Arena → ε → AllocError} {action : Action ε Arena α}
    (h : ∀ arena, arena.Confined → (action arena).state.Confined) :
    Safe (onArena explain action) := by
  refine ⟨fun heap intact => ?_⟩
  have confined := h heap.arena intact.confined
  rcases run : action heap.arena with ⟨e | a, arena, events⟩ <;> rw [run] at confined <;>
    rw [onArena_apply run]
  · exact fair_of_refused (intact.withArena confined) rfl
  · exact fair_of_ok (intact.withArena confined) rfl

/-- A request that is answered leaves the records where they are. -/
theorem onArena_eq_ok {ε : Type} {explain : Arena → ε → AllocError} {action : Action ε Arena α}
    {a : α} {after : Heap} {events : List Event}
    (run : onArena explain action heap = ⟨.ok a, after, events⟩) :
    (action heap.arena).answer = .ok a ∧ after.handles = heap.handles := by
  rcases done : action heap.arena with ⟨e | a', arena, events'⟩ <;>
    rw [onArena_apply done] at run <;> cases run
  exact ⟨rfl, rfl⟩

theorem Intact.register (intact : heap.Intact) {block : Block} {kind : RecordKind}
    (allowed : kind.Allows block.len) :
    Fair (onTable (HandleTable.register ⟨block, kind, false⟩) heap) := by
  have accounted := intact.handles.register (⟨block, kind, false⟩ : Placement)
  rcases run : HandleTable.register ⟨block, kind, false⟩ heap.handles with
    ⟨stop | handle, table, events⟩ <;> rw [run] at accounted <;> rw [onTable_apply run]
  · have same := HandleTable.resolve_register_error run
    have full := intact.handles.register_eq_error (congrArg Outcome.answer run)
    exact fair_of_refused ⟨accounted, intact.roots,
      fun known => intact.allowed ((same _).symm.trans known), intact.confined⟩
      (congrArg Except.error full)
  · refine fair_of_ok ⟨accounted, intact.roots, fun {other placement} known => ?_,
      intact.confined⟩ rfl
    have resolve := (HandleTable.resolve_register run).2 other
    by_cases own : other = handle
    · rw [if_pos own] at resolve
      cases resolve.symm.trans known
      exact allowed
    · rw [if_neg own] at resolve
      exact intact.allowed (resolve.symm.trans known)

theorem Intact.retarget (intact : heap.Intact) (handle : Handle) {placement : Placement}
    (allowed : placement.kind.Allows placement.block.len) :
    Fair (onTable (HandleTable.relocate handle placement) heap) := by
  have accounted := intact.handles.relocate handle placement
  by_cases live : heap.handles.isLive handle = true
  · refine fair_of_ok ⟨accounted, intact.roots, fun {other found} known => ?_,
      intact.confined⟩ (a := ()) ?_
    · have resolve := HandleTable.resolve_relocate live placement other
      by_cases own : other = handle
      · rw [if_pos own] at resolve
        cases resolve.symm.trans known
        exact allowed
      · rw [if_neg own] at resolve
        exact intact.allowed (resolve.symm.trans known)
    · show (HandleTable.relocate handle placement heap.handles).answer = _
      rw [HandleTable.relocate, if_pos live]
  · have run : HandleTable.relocate handle placement heap.handles =
        ⟨.error (.refused .invalidHandle), heap.handles, []⟩ := by
      rw [HandleTable.relocate, if_neg live]
    rw [onTable_apply run]
    exact fair_of_refused intact rfl

theorem safe_end (handle : Handle) : Safe (onTable (HandleTable.invalidate handle)) := by
  refine ⟨fun heap intact => ?_⟩
  obtain ⟨live, answer⟩ := exists_answer_end intact.handles handle
  refine fair_of_ok ⟨intact.handles.perform (.invalidate handle), intact.roots,
    fun {other placement} known => ?_, intact.confined⟩ answer
  have resolve := HandleTable.resolve_invalidate handle heap.handles other
  split at resolve
  · cases resolve.symm.trans known
  · exact intact.allowed (resolve.symm.trans known)

/-- Work on the roots that keeps their accounts, and does not fault where they agree. -/
theorem safe_onRoots {action : Action Stop RootSet α}
    (keeps : ∀ roots, roots.Accounted → (action roots).state.Accounted)
    (faultless : ∀ roots, roots.Accounted → ∀ fault,
      (action roots).answer ≠ .error (.fault fault)) : Safe (onRoots action) :=
  ⟨fun heap intact => ⟨intact.withRoots (keeps heap.roots intact.roots),
    fun fault h => absurd h (faultless heap.roots intact.roots fault)⟩⟩

theorem safe_countUnhashed : Safe countUnhashed := by
  refine ⟨fun heap intact => ?_⟩
  unfold countUnhashed
  split
  · exact ⟨intact, fun fault same => (Stop.fault.inj (Except.error.inj same)).symm⟩
  · exact fair_of_ok (intact.withBuckets _) rfl

/-! ## 3. Bytes of a record -/

/-- Storing bytes inside a record is safe. -/
theorem safe_patch {block : Block} {start : Nat} {source : List UInt8}
    (fits : start + source.length ≤ block.len) : Safe (patch block start source) := by
  unfold patch
  rw [if_pos fits]
  exact safe_changeArena fun arena confined => confined.overwrite block start source

theorem safe_set {layout : Layout} {scalar : Scalar} (handle : Handle)
    (field : Field layout scalar) (value : scalar.Carrier Handle) :
    Safe (set handle field value) := by
  refine ⟨fun heap intact => intact.look_bind (faultless_record ..) fun block found => ?_⟩
  have fits : field.offset + (scalar.encode value).length ≤ block.len := by
    rw [Scalar.length_encode, intact.len_of_layout found]
    exact field.fits
  exact (safe_patch fits).fair heap intact

/-- Storing what fills a cell is safe, at whatever index. -/
theorem safe_patchCell (handle : Handle) (kind : RecordKind) (index : UInt32) {stride : Nat}
    {source : List UInt8} (fills : source.length = stride) :
    Safe (do
      let block ← look (·.record handle kind)
      let start ← look fun _ => Report.ofExcept (cell block.len index stride)
      patch block start source : HeapAction Unit) := by
  refine Safe.bind (safe_look fun _ _ => faultless_record ..) fun block => ⟨fun heap intact =>
    intact.look_bind (faultless_cell ..) fun start inside => ?_⟩
  exact (safe_patch (fills ▸ cell_eq_ok inside)).fair heap intact

theorem safe_setSlot (storage : Handle) (index : UInt32) (slot : Slot Handle) :
    Safe (setSlot storage index slot) :=
  safe_patchCell storage .propertyArray index slot.length_encode

theorem safe_setCell (values : Handle) (index : UInt32) (value : Value Handle) :
    Safe (setCell values index value) :=
  safe_patchCell values .elementArray index value.length_encode

/-- One half of an accessor is set beside the other, which is read first. -/
theorem safe_changeSlot (storage : Handle) (index : UInt32) (change : Slot Handle → Slot Handle) :
    Safe (Action.look (·.trySlot storage index) >>= fun slot => setSlot storage index (change slot)) :=
  Safe.bind (safe_look fun _ _ => faultless_trySlot ..) fun _ => safe_setSlot ..

theorem safe_setElement (object : Handle) (index : UInt32) (value : Value Handle) :
    Safe (setElement object index value) :=
  Safe.bind (safe_look fun _ intact => intact.elementStorage ..) fun _ => safe_setCell ..

theorem safe_overwrite (handle : Handle) (start : Nat) (source : List UInt8) :
    Safe (overwrite handle start source) := by
  refine Safe.bind (safe_see _) fun known => ?_
  cases known with
  | none => exact safe_pure _
  | some placement =>
    refine safe_changeArena fun arena confined => ?_
    split
    · exact confined.overwrite placement.block start source
    · exact confined

/-! ## 4. Making and moving records -/

theorem safe_allocRecord {kind : RecordKind} {size : Nat} (allowed : 0 < size → kind.Allows size) :
    Safe (allocRecord kind size) := by
  refine ⟨fun heap intact => ?_⟩
  have request : Safe (onArena (fun _ e => e) (Arena.allocate size)) :=
    safe_onArena fun arena confined => confined.allocate size
  refine (request.fair heap intact).bind fun block after events run intact' => ?_
  obtain ⟨some, len⟩ := Arena.len_of_requests (Arena.requests_allocate size) (onArena_eq_ok run).1
  have rest : Safe (onTable (HandleTable.register ⟨block, kind, false⟩) >>= fun handle => do
      emit (.allocated kind size handle)
      return handle) :=
    Safe.bind ⟨fun heap intact => intact.register (len ▸ allowed some)⟩ fun _ =>
      Safe.bind (safe_emit _) fun _ => safe_pure _
  exact (Safe.bind (safe_changeArena fun arena confined => confined.clear block)
    fun _ => rest).fair after intact'

theorem safe_allocShape (proto : Handle) (propSize : UInt32) : Safe (allocShape proto propSize) :=
  Safe.bind (safe_allocRecord fun _ => rfl) fun _ => Safe.bind (safe_set ..) fun _ =>
    Safe.bind (safe_set ..) fun _ => Safe.bind (safe_set ..) fun _ => safe_pure _

theorem safe_fillObject (shape object props : Handle) (classId : UInt16) :
    Safe (fillObject shape object props classId) :=
  Safe.bind (safe_set ..) fun _ => Safe.bind (safe_set ..) fun _ =>
    Safe.bind (safe_set ..) fun _ => Safe.bind (safe_set ..) fun _ => safe_pure _

theorem safe_makeObject (shape : Handle) (classId : UInt16) (slots : UInt32) :
    Safe (makeObject shape classId slots) := by
  refine Safe.bind (safe_allocRecord fun _ => rfl) fun object => ?_
  split
  · refine Safe.bind (safe_allocRecord allows_slots).attempt fun outcome => ?_
    cases outcome with
    | ok props => exact safe_fillObject ..
    | error e => exact Safe.bind (safe_end _) fun _ => safe_refuse e
  · exact safe_fillObject ..

theorem safe_allocObject (shape : Handle) (classId : UInt16) :
    Safe (allocObject shape classId) := by
  rw [allocObject_eq]
  split
  · exact Safe.bind (safe_pure _) (safe_makeObject shape classId)
  · exact Safe.bind (safe_look fun _ intact => intact.tryGet ..) (safe_makeObject shape classId)

/-- Growing a record to a length that its kind allows is safe. -/
theorem safe_growRecord {kind : RecordKind} {size : Nat} (allowed : 0 < size → kind.Allows size)
    (handle : Handle) : Safe (growRecord handle kind size) := by
  refine ⟨fun heap intact => intact.look_bind (faultless_locate ..) fun old located => ?_⟩
  have request : Safe (onArena (fun arena _ => .exhausted size arena.used arena.capacity)
      (Arena.reallocate (some old) size)) :=
    safe_onArena fun arena confined => confined.reallocate old size
  refine (request.fair heap intact).bind fun fresh after events run intact' => ?_
  obtain ⟨given, handles⟩ := onArena_eq_ok run
  obtain ⟨some, len⟩ := Arena.len_of_requests (Arena.requests_reallocate old size) given
  refine intact'.look_bind (faultless_placement ..) fun placement found => ?_
  -- Taking the block did not change what the handle names.
  have same : placement.kind = kind := by
    obtain ⟨start, known, -, ofKind⟩ := locate_eq_ok located
    have known' := placement_eq_ok found
    rw [handles] at known'
    cases known.symm.trans known'
    exact ofKind
  refine Fair.bind (intact'.retarget handle ?_) fun _ after' _ _ intact'' =>
    (safe_emit _).fair after' intact''
  show placement.kind.Allows fresh.len
  rw [same, len]
  exact allowed some

theorem safe_relocate (handle : Handle) : Safe (relocate handle) := by
  refine ⟨fun heap intact => intact.look_bind (faultless_placement ..) fun placement found => ?_⟩
  split
  · exact (safe_refuse _).fair heap intact
  have request : Safe (onArena (fun _ e => e) (Arena.allocate placement.block.len)) :=
    safe_onArena fun arena confined => confined.allocate _
  refine (request.fair heap intact).bind fun fresh after events run intact' => ?_
  have len := (Arena.len_of_requests (Arena.requests_allocate _) (onArena_eq_ok run).1).2
  have allowed : placement.kind.Allows fresh.len :=
    len ▸ intact.allowed (placement_eq_ok found)
  have copies : Safe (changeArena (Arena.copy placement.block fresh placement.block.len)) :=
    safe_changeArena fun arena confined => confined.copy placement.block fresh placement.block.len
  refine (copies.fair after intact').bind fun copied after' _ _ intact'' => ?_
  cases copied with
  | none => exact (safe_refuse _).fair after' intact''
  | some _ =>
    exact Fair.bind (intact''.retarget handle allowed) fun _ last _ _ intact =>
      (safe_emit _).fair last intact

theorem safe_setPinned (handle : Handle) (pinned : Bool) : Safe (setPinned handle pinned) :=
  ⟨fun _ intact => intact.look_bind (faultless_placement ..) fun placement found =>
    intact.retarget handle (show placement.kind.Allows placement.block.len from
      intact.allowed (placement_eq_ok found))⟩

/-! ## 5. Slots and elements -/

theorem safe_growProperties (storage : Handle) (capacity : UInt32) :
    Safe (growProperties storage capacity) := by
  refine Safe.bind (safe_look fun _ _ => faultless_capacity ..) fun current => ?_
  split
  · exact Safe.bind (safe_look fun _ _ => faultless_locate ..) fun _ => safe_pure _
  · exact safe_growRecord allows_slots storage

theorem safe_attachElements (object : Handle) : Safe (attachElements object) :=
  Safe.bind (safe_allocRecord allows_cells) fun _ => Safe.bind (safe_set ..) fun _ =>
    Safe.bind (safe_set ..) fun _ => safe_pure _

/-- Only an index below the number of cells is stored at, and that number is one of 32 bits. -/
theorem Intact.index_lt_of_setCell (intact : heap.Intact) {values : Handle} {index : UInt32}
    {value : Value Handle} (ok : (setCell values index value heap).answer = .ok ()) :
    index.toNat + 1 < 0x100000000 := by
  obtain ⟨block, found, rest⟩ := bind_eq_ok ok
  obtain ⟨start, inside, -⟩ := bind_eq_ok rest
  obtain ⟨placement, known, rfl, same⟩ := record_eq_ok found
  obtain ⟨cells, -, small, len⟩ : RecordKind.elementArray.Allows placement.block.len :=
    same ▸ intact.allowed known
  have place := (cell_place inside).2
  rw [len] at place
  have below : (index.toNat + 1) * 16 ≤ cells * 16 := by
    rw [Nat.succ_mul]
    exact place
  omega

theorem safe_fillCell (object array : Handle) (count : UInt32) (value : Value Handle) :
    Safe (fillCell object array count value) := by
  refine ⟨fun heap intact => ?_⟩
  refine Fair.bind ((safe_setCell array count value).fair heap intact)
    fun _ after _ run intact' => ?_
  rw [if_pos (intact.index_lt_of_setCell (congrArg Outcome.answer run))]
  exact (Safe.bind (safe_set ..) fun _ => safe_pure _).fair after intact'

theorem safe_storeElement (object array : Handle) (count : UInt32) (value : Value Handle) :
    Safe (storeElement object array count value) := by
  refine Safe.bind (safe_look fun _ intact => intact.elementCapacity _) fun capacity => ?_
  split
  · exact Safe.bind (safe_growRecord (fun _ => allows_grownCapacity capacity) array) fun _ =>
      safe_fillCell ..
  · exact safe_fillCell ..

theorem safe_pushElement (object : Handle) (value : Value Handle) :
    Safe (pushElement object value) := by
  rw [pushElement_eq]
  refine Safe.bind (safe_look fun _ intact => intact.tryGet ..) fun count =>
    Safe.bind (safe_look fun _ intact => intact.tryGet ..) fun attached => ?_
  split
  · exact Safe.bind (safe_attachElements object) fun _ => safe_storeElement ..
  · exact Safe.bind (safe_pure _) fun _ => safe_storeElement ..

/-! ## 6. Buckets, ends and roots -/

theorem safe_hashShape (shape : Handle) : Safe (hashShape shape) := by
  refine Safe.bind (safe_look fun _ intact => intact.tryGet ..) fun hashed => ?_
  split
  · exact safe_pure _
  · exact Safe.bind (safe_look fun _ intact => intact.tryGet ..) fun _ =>
      Safe.bind (safe_see _) fun _ => Safe.bind (safe_set ..) fun _ =>
        Safe.bind (safe_set ..) fun _ => safe_onBuckets _

theorem safe_unmark (shape : Handle) : Safe (unmark shape) :=
  Safe.bind (safe_set ..) fun _ => Safe.bind (safe_set ..) fun _ =>
    Safe.bind safe_countUnhashed fun _ => safe_pure _

theorem safe_passOver (shape : Handle) (hash : UInt32) (next previous : Handle) :
    Safe (passOver shape hash next previous) := by
  unfold passOver
  split
  · exact Safe.bind (safe_onBuckets _) fun _ => safe_unmark shape
  · exact Safe.bind (safe_set ..) fun _ => safe_unmark shape

theorem safe_unhashShape (shape : Handle) : Safe (unhashShape shape) := by
  rw [unhashShape_eq]
  refine Safe.bind (safe_look fun _ intact => intact.tryGet ..) fun hashed => ?_
  split
  · exact Safe.bind (safe_look fun _ intact => intact.tryGet ..) fun _ =>
      Safe.bind (safe_look fun _ intact => intact.tryGet ..) fun _ =>
        Safe.bind (safe_look fun _ intact => intact.predecessor ..) fun _ => safe_passOver ..
  · exact safe_pure _

theorem safe_internShape (proto : Handle) : Safe (internShape proto) := by
  refine Safe.bind (safe_look fun _ intact => intact.findFrom ..) fun known => ?_
  cases known with
  | some shape => exact Safe.bind (safe_emit _) fun _ => safe_pure _
  | none =>
    exact Safe.bind (safe_allocShape ..) fun shape => Safe.bind (safe_hashShape shape) fun _ =>
      Safe.bind (safe_emit _) fun _ => safe_pure _

theorem safe_invalidate (handle : Handle) : Safe (invalidate handle) := by
  refine Safe.bind (safe_see _) fun kind => ?_
  extract_lets ended
  have safe_ended (r : Unit) : Safe (ended r) := safe_end _
  split
  · refine Safe.bind (safe_look fun _ intact => intact.get ..) fun hashed => ?_
    split
    · refine Safe.bind (safe_unhashShape handle).attempt fun outcome => ?_
      cases outcome with
      | ok _ => exact safe_ended ()
      | error e => exact Safe.bind (safe_emit _) safe_ended
    · exact safe_ended ()
  · exact safe_ended ()

theorem safe_addRoot (handle : Handle) : Safe (addRoot handle) := by
  refine Safe.bind (safe_see _) fun live => ?_
  split
  · refine Safe.bind (safe_onRoots (fun _ accounted => accounted.add handle) ?_) fun _ =>
      Safe.bind (safe_emit _) fun _ => safe_pure _
    exact fun _ accounted _ failed => nomatch accounted.add_eq_error failed
  · exact safe_refuse _

theorem safe_setRoot (id : RootId) (handle : Handle) : Safe (setRoot id handle) := by
  refine Safe.bind (safe_see _) fun live => ?_
  split
  · refine safe_onRoots (fun _ accounted => accounted.set id handle) ?_
    exact fun _ _ _ failed => nomatch RootSet.set_eq_error failed
  · exact safe_refuse _

theorem safe_removeRoot (id : RootId) : Safe (removeRoot id) := by
  refine safe_onRoots (fun _ accounted => accounted.remove id) fun _ accounted _ failed => ?_
  obtain ⟨used, answer⟩ := accounted.remove_answers id
  cases answer.symm.trans failed

theorem Intact.endAll (intact : heap.Intact) : heap.endAll.Intact := by
  refine ⟨intact.handles.invalidateAll, RootSet.accounted_empty, fun {handle _} known => ?_,
    intact.confined⟩
  cases (HandleTable.resolve_invalidateAll heap.handles handle).symm.trans known

theorem safe_reset : Safe reset :=
  Safe.bind (safe_see _) fun _ => Safe.bind (safe_modify fun _ intact => intact.endAll) fun _ =>
    Safe.bind (safe_onArena fun _ confined => confined.reset) fun _ => safe_emit _

theorem safe_teardown : Safe teardown :=
  Safe.bind (safe_modify fun _ intact => intact.endAll) fun _ =>
    safe_onArena fun _ confined => confined.teardown

/-! ## 7. Walks -/

section Walks

variable {σ : Type}

theorem safe_walk {body : σ → Handle → HeapAction (σ × Option β)}
    (safe_body : ∀ own object, Safe (body own object)) (start : Handle) (own : σ) :
    Safe (walk start own body) := by
  unfold walk
  generalize maxChainDepth = remaining, 0 = hops, Handle.null = last
  suffices ∀ current, Safe (walkFrom start body remaining hops last current own) from this start
  intro current
  induction remaining generalizing hops last current own with
  | zero =>
    unfold walkFrom
    split
    · exact safe_pure _
    · exact Safe.bind (safe_emit _) fun _ => safe_pure _
  | succ remaining ih =>
    unfold walkFrom
    split
    · exact safe_pure _
    · refine Safe.bind (safe_body own current) fun outcome => ?_
      obtain ⟨own, _ | value⟩ := outcome
      · exact Safe.bind (safe_look fun _ intact => intact.prototype _) fun next => ih ..
      · exact safe_pure _

theorem safe_walkWithShape {body : σ → Handle → Handle → HeapAction (σ × Option β)}
    (safe_body : ∀ own object shape, Safe (body own object shape)) (start : Handle) (own : σ) :
    Safe (walkWithShape start own body) := by
  unfold walkWithShape
  generalize maxChainDepth = remaining, 0 = hops, Handle.null = last
  suffices ∀ current, Safe (walkWithShapeFrom start body remaining hops last current own) from
    this start
  intro current
  induction remaining generalizing hops last current own with
  | zero =>
    unfold walkWithShapeFrom
    split
    · exact safe_pure _
    · exact Safe.bind (safe_emit _) fun _ => safe_pure _
  | succ remaining ih =>
    unfold walkWithShapeFrom
    split
    · exact safe_pure _
    · refine Safe.bind (safe_look fun _ intact => intact.get ..) fun shape => ?_
      split
      · exact safe_pure _
      · refine Safe.bind (safe_body own current shape) fun outcome => ?_
        obtain ⟨own, _ | value⟩ := outcome
        · exact Safe.bind (safe_look fun _ intact => intact.get ..) fun _ =>
            Safe.bind (safe_look fun _ intact => intact.get ..) fun _ => ih ..
        · exact safe_pure _

theorem safe_search {test : σ → Heap → Handle → Report Stop (σ × Bool)}
    (faultless : ∀ own (heap : Heap) object, heap.Intact → (test own heap object).Faultless)
    (start : Handle) (own : σ) : Safe (search start own test) :=
  Safe.bind (safe_walk (fun own object => Safe.bind
    (safe_look fun heap intact => faultless own heap object intact) fun _ => safe_pure _) start own)
    fun _ => safe_pure _

theorem safe_chainContains (start target : Handle) : Safe (chainContains start target) := by
  refine Safe.bind (safe_search (fun _ _ _ _ => faultless_pure _) start ()) fun found => ?_
  obtain ⟨_, ended⟩ := found
  dsimp only
  cases ended.result with
  | ok found => exact safe_pure _
  | error e => exact safe_refuse _

end Walks

end Heap

/-! ## 8. Operations -/

namespace Operation

open Heap

theorem safe_doing {action : HeapAction Unit} (h : Safe action) : Safe (doing action) :=
  Safe.bind h fun _ => safe_pure _

theorem safe_looking {α : Type} {report : Heap → Report Stop α}
    (faultless : ∀ heap : Heap, heap.Intact → (report heap).Faultless)
    (answer : α → Answer Handle) : Safe (looking report answer) :=
  Safe.bind (safe_look faultless) fun _ => safe_pure _

theorem safe_telling (fact : Heap → Answer Handle) : Safe (telling fact) :=
  safe_looking (fun _ _ => faultless_pure _) id

theorem safe_answering {α : Type} {action : HeapAction α} (h : Safe action)
    (answer : α → Answer Handle) : Safe (action >>= fun a => pure (answer a)) :=
  Safe.bind h fun _ => safe_pure _

/-- What is read of a slot. -/
theorem safe_lookingAtSlot {α : Type} (storage : Handle) (index : UInt32) (part : Slot Handle → α)
    (answer : α → Answer Handle) :
    Safe (looking (fun heap => heap.slot storage index >>= fun slot => pure (part slot)) answer) :=
  safe_looking (fun _ _ => faultless_bind (faultless_slot ..) fun _ _ => faultless_pure _) _

/-- No operation faults in an intact heap, and every one leaves it intact. -/
theorem safe_perform (operation : Operation Handle) : Safe operation.perform := by
  cases operation with
  | arenaUsage | config | stats | kind | isLive | isPinned | bytes | getRoot | roots =>
    exact safe_telling _
  | allocObject => exact safe_answering (safe_allocObject ..) _
  | allocShape => exact safe_answering (safe_allocShape ..) _
  | allocProperties => exact safe_answering (safe_allocRecord allows_slots) _
  | allocElements => exact safe_answering (safe_allocRecord allows_cells) _
  | reserve size => exact safe_answering (safe_onArena fun _ confined => confined.allocate size) _
  | invalidate => exact safe_answering (safe_invalidate _) _
  | get => exact safe_looking (fun _ intact => intact.get ..) _
  | tryGet => exact safe_looking (fun _ intact => intact.tryGet ..) _
  | set => exact safe_doing (safe_set ..)
  | overwrite => exact safe_answering (safe_overwrite ..) _
  | prototype => exact safe_looking (fun _ intact => intact.prototype _) _
  | slotCapacity => exact safe_looking (fun _ _ => faultless_capacity ..) _
  | slot => exact safe_looking (fun _ _ => faultless_slot ..) _
  | trySlot => exact safe_looking (fun _ _ => faultless_trySlot ..) _
  | setSlot | setSlotValue | setSlotVarRef => exact safe_doing (safe_setSlot ..)
  | slotValue | slotGetter | slotSetter | slotVarRef => exact safe_lookingAtSlot ..
  | setSlotGetter | setSlotSetter => exact safe_doing (safe_changeSlot ..)
  | growProperties => exact safe_doing (safe_growProperties ..)
  | elementCapacity => exact safe_looking (fun _ intact => intact.elementCapacity _) _
  | element => exact safe_looking (fun _ intact => (intact.tryElement ..).withDefault _) _
  | tryElement => exact safe_looking (fun _ intact => intact.tryElement ..) _
  | setElement => exact safe_doing (safe_setElement ..)
  | pushElement => exact safe_answering (safe_pushElement ..) _
  | relocate => exact safe_doing (safe_relocate _)
  | pin | unpin => exact safe_doing (safe_setPinned ..)
  | reset => exact safe_doing safe_reset
  | teardown => exact safe_doing safe_teardown
  | addRoot => exact safe_answering (safe_addRoot _) _
  | setRoot => exact safe_doing (safe_setRoot ..)
  | removeRoot => exact safe_answering (safe_removeRoot _) _
  | findShape => exact safe_looking (fun _ intact => intact.findFrom ..) _
  | internShape => exact safe_answering (safe_internShape _) _
  | hashShape => exact safe_doing (safe_hashShape _)
  | unhashShape => exact safe_answering (safe_unhashShape _) _
  | chainContains => exact safe_answering (safe_chainContains ..) _

end Operation

namespace Heap

/-! ## 9. Sessions -/

theorem intact_of_reached {config : Config} {requested : Nat} {heap : Heap}
    (reached : Reached config requested heap) : heap.Intact := by
  induction reached with
  | new made => exact intact_new made
  | perform _ operation intact => exact (operation.safe_perform.fair _ intact).intact

/-- What is read, counted and issued in a heap stays within bounds. -/
structure Bounded (heap : Heap) : Prop where
  /-- A record is as long as its kind allows and lies inside the arena. -/
  records : ∀ {handle kind block}, (heap.record handle kind).answer = .ok block →
    kind.Allows block.len ∧ block.offset + block.len ≤ heap.arena.capacity
  beyond : ∀ address, heap.arena.capacity ≤ address → heap.arena.memory.get address = 0
  /-- As many bytes are decoded as were asked for, and they are of the record. -/
  slices : ∀ {block start len bytes}, (heap.slice block start len).answer = .ok bytes →
    start + len ≤ block.len ∧ bytes.length = len
  /-- The number of cells of a record is one of 32 bits. -/
  slots : ∀ {storage block}, (heap.record storage .propertyArray).answer = .ok block →
    (UInt32.ofNat (block.len / Slot.size)).toNat = block.len / Slot.size
  cells : ∀ {values block}, (heap.record values .elementArray).answer = .ok block →
    (UInt32.ofNat (block.len / Value.size)).toNat = block.len / Value.size
  /-- No index is issued that is in use. -/
  issues : ∀ {placement handle},
    (HandleTable.register placement heap.handles).answer = .ok handle →
      heap.handles.inUse handle.index = false
  /-- Every handle that is ended was counted, and so was every root that is dropped. -/
  live : ∀ {handle}, heap.isLive handle = true → 0 < heap.handles.live
  roots : ∀ {id}, (heap.roots.get? id).isSome = true → 0 < heap.roots.count

theorem Intact.bounded {heap : Heap} (intact : heap.Intact) : heap.Bounded where
  records found := by
    obtain ⟨placement, known, rfl, rfl⟩ := record_eq_ok found
    exact ⟨intact.allowed known, Arena.end_of_holds (held_of_record found)⟩
  beyond := intact.confined
  slices := fun {block start len bytes} ok => by
    unfold slice at ok
    split at ok
    · next fits =>
      cases ok
      exact ⟨fits, Memory.length_read ..⟩
    · cases ok
  slots found := by
    obtain ⟨placement, known, rfl, same⟩ := record_eq_ok found
    obtain ⟨slots, -, small, len⟩ : RecordKind.propertyArray.Allows placement.block.len :=
      same ▸ intact.allowed known
    rw [len, Slot.size, Nat.mul_div_cancel _ (by decide)]
    exact HandleTable.toNat_ofNat small
  cells found := by
    obtain ⟨placement, known, rfl, same⟩ := record_eq_ok found
    obtain ⟨cells, -, small, len⟩ : RecordKind.elementArray.Allows placement.block.len :=
      same ▸ intact.allowed known
    rw [len, Value.size, Nat.mul_div_cancel _ (by decide)]
    exact HandleTable.toNat_ofNat small
  issues issued := intact.handles.vacant_of_register issued
  live := intact.handles.live_pos
  roots := intact.roots.count_pos

/-- Whatever was stored in the records of a heap that a session reaches, and however its offset
moved, no operation faults in it, save where a shape is taken off the count of those in buckets.
Nor does a walk or a search whose body is made of such operations. -/
theorem faultless_of_reached {config : Config} {requested : Nat} {heap : Heap}
    (reached : Reached config requested heap) :
    heap.Bounded ∧
      (∀ operation : Operation Handle, Safe operation.perform ∧
        ∀ fault, (operation.perform heap).answer = .error (.fault fault) →
          fault = .hashedCountUnderflow) ∧
      ∀ (σ β : Type) (start : Handle) (own : σ) (fault : Fault),
        (∀ body : σ → Handle → HeapAction (σ × Option β), (∀ own object, Safe (body own object)) →
          (walk start own body heap).answer = .error (.fault fault) →
            fault = .hashedCountUnderflow) ∧
        (∀ body : σ → Handle → Handle → HeapAction (σ × Option β),
          (∀ own object shape, Safe (body own object shape)) →
            (walkWithShape start own body heap).answer = .error (.fault fault) →
              fault = .hashedCountUnderflow) ∧
        ∀ test, (∀ own (heap : Heap) object, heap.Intact → (test own heap object).Faultless) →
          (search start own test heap).answer = .error (.fault fault) →
            fault = .hashedCountUnderflow := by
  have intact := intact_of_reached reached
  refine ⟨intact.bounded, fun operation =>
    ⟨operation.safe_perform, (operation.safe_perform.fair heap intact).fault⟩,
    fun σ β start own fault => ⟨fun body safe => ?_, fun body safe => ?_, fun test faultless => ?_⟩⟩
  · exact ((safe_walk safe start own).fair heap intact).fault fault
  · exact ((safe_walkWithShape safe start own).fair heap intact).fault fault
  · exact ((safe_search faultless start own).fair heap intact).fault fault

/-- An object whose count was overwritten with the largest number is refused an element. -/
theorem faultless_small :
    let session := smallSession ++ [.set ⟨2, 0⟩ ObjectField.arrayCount 0xffffffff]
    let heap := newSmall.run session
    Reached { arenaCapacity := 1024 } (runCounting 0 newSmall session).1 heap ∧
      ∀ value, (pushElement ⟨2, 0⟩ value heap).answer ≠ .error (.fault .elementCountOverflow) := by
  intro session heap
  have reached : Reached { arenaCapacity := 1024 } (runCounting 0 newSmall session).1 heap :=
    reached_run (.new new_small) session
  refine ⟨reached, fun value overflow => ?_⟩
  have failed : ((Operation.pushElement ⟨2, 0⟩ value).perform heap).answer =
      .error (.fault .elementCountOverflow) := answer_bind_of_error overflow
  cases ((faultless_of_reached reached).2.1 _).2 _ failed

end Heap

end HandleHeap
