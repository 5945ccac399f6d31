import HandleHeap.Proofs.Heap.Invariants
import HandleHeap.Proofs.Heap.Objects
import HandleHeap.Proofs.Shape.Linking

/-!
# What a refusal leaves

An operation that is refused has changed nothing that its caller could have relied on.

* `reverts_perform`: a refused operation leaves the heap as it was. If it was refused for lack of
  space or of handles, it may have used up space and indices, and every record is as it was, as are
  the roots and the buckets (`Spared`).
* `refused_of_reached`: so it is in every heap that a session reaches.

An object whose property array cannot be made is ended again, and the later parts of the other
operations that have several cannot be refused. Appending an element is the one operation that this
is not said of: it attaches an element array before it stores the element.
-/

namespace HandleHeap

open HandleHeap.Action

/-- A refusal for lack of space or of handles. -/
def HeapError.Shortage : HeapError → Prop
  | .outOfMemory _ | .handleTableFull => True
  | _ => False

/-- The operation that appends an element, whose parts can be refused one after another. -/
def Operation.Appends : Operation Handle → Prop
  | pushElement .. => True
  | _ => False

namespace Heap

/-! ## 1. What is spared -/

/-- The parts of a heap other than the table, the memory and the bump offset are as before. -/
structure Beside (before after : Heap) : Prop where
  config : after.config = before.config
  buckets : after.buckets = before.buckets
  roots : after.roots = before.roots
  capacity : after.arena.capacity = before.arena.capacity
  epoch : after.arena.epoch = before.arena.epoch
  initialized : after.arena.initialized = before.arena.initialized

/-- Each handle names what it named, its place and its bytes included. Space and indices may have
been used up. -/
structure Spared (before after : Heap) : Prop extends Beside before after where
  same : ∀ handle, Same handle before after

variable {α β : Type} {heap : Heap} {kind : RecordKind} {size : Nat}

theorem Beside.refl (heap : Heap) : Beside heap heap := ⟨rfl, rfl, rfl, rfl, rfl, rfl⟩

theorem Beside.trans {a b c : Heap} (first : Beside a b) (second : Beside b c) : Beside a c :=
  ⟨second.config.trans first.config, second.buckets.trans first.buckets,
    second.roots.trans first.roots, second.capacity.trans first.capacity,
    second.epoch.trans first.epoch, second.initialized.trans first.initialized⟩

instance : KeptByArena Beside where
  refl := .refl
  trans := .trans
  request heap size := by
    obtain ⟨used, moved⟩ := Arena.exists_state_allocate heap.arena size
    rw [moved]
    exact ⟨rfl, rfl, rfl, rfl, rfl, rfl⟩
  content _ _ _ changed :=
    ⟨rfl, rfl, rfl, changed.capacity, changed.epoch, changed.initialized⟩

instance : KeptByTable Beside where
  refl := .refl
  trans := .trans
  handles _ _ := ⟨rfl, rfl, rfl, rfl, rfl, rfl⟩

theorem Spared.refl (heap : Heap) : Spared heap heap :=
  ⟨.refl heap, fun handle => .refl handle heap⟩

/-- As many handles are live. -/
theorem Spared.live {after : Heap} (spared : Spared heap after)
    (accounted : heap.handles.Accounted) (accounted' : after.handles.Accounted) :
    after.handles.live = heap.handles.live :=
  HandleTable.live_eq_of_isLive accounted' accounted fun handle =>
    HandleTable.isLive_congr (spared.same handle).resolve

/-- A refusal leaves the heap as it was or, for lack of space or handles, spares what it holds. -/
def Reverts (heap : Heap) (out : Outcome Stop Heap α) : Prop :=
  ∀ error, out.answer = .error (.refused error) →
    (¬ error.Shortage → out.state = heap) ∧ (error.Shortage → Spared heap out.state)

theorem reverts_of_same {out : Outcome Stop Heap α} (same : out.state = heap) : Reverts heap out :=
  fun _ _ => ⟨fun _ => same, fun _ => same ▸ .refl heap⟩

theorem reverts_of_spared {out : Outcome Stop Heap α} (spared : Spared heap out.state)
    (shortage : ∀ error, out.answer = .error (.refused error) → error.Shortage) :
    Reverts heap out :=
  fun error refused => ⟨fun other => absurd (shortage error refused) other, fun _ => spared⟩

/-- Work that is not refused. -/
def Granted (out : Outcome Stop Heap α) : Prop := ∀ error, out.answer ≠ .error (.refused error)

theorem Granted.reverts {out : Outcome Stop Heap α} (granted : Granted out) : Reverts heap out :=
  fun error refused => absurd refused (granted error)

theorem granted_of_ok {out : Outcome Stop Heap α} {a : α} (ok : out.answer = .ok a) : Granted out :=
  fun _ refused => nomatch ok.symm.trans refused

theorem Granted.bind {first : HeapAction α} {next : α → HeapAction β}
    (granted : Granted (first heap))
    (rest : ∀ a, (first heap).answer = .ok a → Granted (next a (first heap).state)) :
    Granted ((first >>= next) heap) := by
  intro error refused
  rcases run : first heap with ⟨stop | a, after, events⟩
  · rw [bind_apply_of_error run] at refused
    cases refused
    exact granted error (congrArg Outcome.answer run)
  · rw [answer_bind_of_ok run] at refused
    have rest := rest a (congrArg Outcome.answer run) error
    rw [run] at rest
    exact rest refused

theorem Reverts.look_bind {report : Heap → Report Stop α} {next : α → HeapAction β}
    (rest : ∀ a, (report heap).answer = .ok a → Reverts heap (next a heap)) :
    Reverts heap ((look report >>= next) heap) := by
  rcases run : report heap with ⟨stop | a, events⟩
  · rw [look_bind_of_error report run]
    exact reverts_of_same rfl
  · intro error refused
    rw [answer_bind_of_ok (look_apply report run)] at refused
    rw [state_bind_of_ok (look_apply report run)]
    exact rest a (congrArg Report.answer run) error refused

/-- The first part reverts, and what follows it is not refused. -/
theorem Reverts.bind_granted {first : HeapAction α} {next : α → HeapAction β}
    (reverts : Reverts heap (first heap))
    (rest : ∀ a, (first heap).answer = .ok a → Granted (next a (first heap).state)) :
    Reverts heap ((first >>= next) heap) := by
  intro error refused
  rcases run : first heap with ⟨stop | a, after, events⟩
  · rw [bind_apply_of_error run] at refused ⊢
    rw [run] at reverts
    cases refused
    exact reverts error rfl
  · rw [answer_bind_of_ok run] at refused
    have rest := rest a (congrArg Outcome.answer run) error
    rw [run] at rest
    exact absurd refused rest

theorem Reverts.bind_pure {first : HeapAction α} (reverts : Reverts heap (first heap))
    (answer : α → β) : Reverts heap ((first >>= fun a => pure (answer a)) heap) :=
  reverts.bind_granted fun _ _ => granted_of_ok rfl

/-- Writing into a record is refused before anything is written. -/
theorem Edits.reverts {handle : Handle} {edit : List UInt8 → Except Stop (List UInt8)}
    {action : HeapAction Unit} (edits : Edits handle kind edit action) (separated : heap.Separated) :
    Reverts heap (action heap) := by
  cases edited : heap.view.contents handle kind >>= edit with
  | error stop =>
    obtain ⟨events, run⟩ := edits.refused separated edited
    rw [run]
    exact reverts_of_same rfl
  | ok bytes =>
    obtain ⟨after, run, -⟩ := edits.done separated edited
    rw [run]
    exact (granted_of_ok rfl).reverts

/-! ## 2. Making records -/

theorem Sound.spared_request (sound : heap.Sound) (size : Nat) :
    Spared heap { heap with arena := (Arena.allocate size heap.arena).state } :=
  ⟨KeptByArena.request heap size, (sound.requested size).2.2⟩

/-- Changing a block that no record has spares all records. -/
theorem Sound.spared_fill {arena arena' : Arena} {block : Block}
    (spared : Spared heap { heap with arena }) (taken : Sound { heap with arena })
    (fresh : Fresh { heap with arena } block) (changed : Arena.OnlyIn block arena arena') :
    Spared heap { heap with arena := arena' } := by
  obtain ⟨filled, -⟩ := taken.fill (fun _ => False) fresh changed
  exact ⟨⟨rfl, rfl, rfl, changed.capacity.trans spared.capacity,
    changed.epoch.trans spared.epoch, changed.initialized.trans spared.initialized⟩,
    fun handle => (spared.same handle).trans (filled.same id)⟩

theorem accounted_allocRecord (kind : RecordKind) (size : Nat)
    (accounted : heap.handles.Accounted) :
    (Heap.allocRecord kind size heap).state.handles.Accounted :=
  have keeps : (Heap.allocRecord kind size).Keeps fun before after : Heap =>
      before.handles.Accounted → after.handles.Accounted := keeps_allocRecord kind size
  keeps.step heap accounted

/-- A record that cannot be made is refused for lack of space or of handles. -/
theorem Sound.allocRecord_refused (sound : heap.Sound) (accounted : heap.handles.Accounted)
    {stop : Stop} (refused : (Heap.allocRecord kind size heap).answer = .error stop) :
    (∃ error, stop = .refused error ∧ error.Shortage) ∧
      Spared heap (Heap.allocRecord kind size heap).state := by
  have requested := sound.spared_request size
  unfold Heap.allocRecord at refused ⊢
  rcases run : Arena.allocate size heap.arena with ⟨cause | block, arena, events⟩ <;>
    rw [run] at requested
  · rw [bind_apply_of_error (onArena_apply run)] at refused ⊢
    exact ⟨⟨_, (Except.error.inj refused).symm, trivial⟩, requested⟩
  · obtain ⟨taken, -, fresh, -⟩ :=
      sound.given (congrArg Outcome.answer run) (congrArg Outcome.state run)
    have cleared := Sound.spared_fill requested taken fresh (Arena.onlyIn_clear arena block)
    have clear : changeArena (fun arena => ((), arena.clear block)) { heap with arena } =
        ⟨.ok (), { heap with arena := arena.clear block }, []⟩ := rfl
    rw [answer_bind_of_ok (onArena_apply run), answer_bind_of_ok clear] at refused
    rw [state_bind_of_ok (onArena_apply run), state_bind_of_ok clear]
    rcases registered : HandleTable.register ⟨block, kind, false⟩ heap.handles with
      ⟨full | handle, table, events'⟩
    · have failed : onTable (HandleTable.register ⟨block, kind, false⟩)
          { heap with arena := arena.clear block } = ⟨.error full,
            { heap with arena := arena.clear block, handles := table }, events'⟩ :=
        onTable_apply registered
      obtain ⟨rfl, rfl⟩ := accounted.register_error registered
      rw [bind_apply_of_error failed] at refused ⊢
      exact ⟨⟨_, (Except.error.inj refused).symm, trivial⟩, cleared⟩
    · have made : onTable (HandleTable.register ⟨block, kind, false⟩)
          { heap with arena := arena.clear block } = ⟨.ok handle,
            { heap with arena := arena.clear block, handles := table }, events'⟩ :=
        onTable_apply registered
      rw [answer_bind_of_ok made] at refused
      cases refused

theorem Sound.reverts_allocRecord (sound : heap.Sound) (accounted : heap.handles.Accounted) :
    Reverts heap (Heap.allocRecord kind size heap) := by
  intro error refused
  obtain ⟨⟨_, ⟨⟩, shortage⟩, spared⟩ := sound.allocRecord_refused accounted refused
  exact ⟨fun other => absurd shortage other, fun _ => spared⟩

theorem Sound.reverts_allocShape (sound : heap.Sound) (accounted : heap.handles.Accounted)
    (proto : Handle) (propSize : UInt32) : Reverts heap (Heap.allocShape proto propSize heap) := by
  obtain ⟨after, run, -⟩ := sound.allocShape_eq proto propSize
  unfold Heap.allocShape at run ⊢
  refine (sound.reverts_allocRecord accounted).bind_granted fun shape made => ?_
  have answer := congrArg Outcome.answer run
  rcases made' : Heap.allocRecord .shape Layout.shape.size heap with ⟨_ | _, middle, events⟩ <;>
    rw [made'] at made answer
  · cases made
  · cases made
    rw [answer_bind_of_ok made'] at answer
    exact granted_of_ok answer

/-- An object whose property array cannot be made is ended again. -/
theorem Sound.spared_of_ended (sound : heap.Sound) {object : Handle}
    (made : (Heap.allocRecord .object Layout.object.size heap).answer = .ok object) {after : Heap}
    (spared : Spared (Heap.allocRecord .object Layout.object.size heap).state after) :
    Spared heap (onTable (HandleTable.invalidate object) after).state := by
  have allowed : 0 < Layout.object.size → RecordKind.object.Allows Layout.object.size := fun _ => rfl
  have making : (Heap.allocRecord .object Layout.object.size).Keeps Beside := keeps_allocRecord ..
  have ending : (onTable (HandleTable.invalidate object)).Keeps Beside := keeps_end object
  have dead := sound.resolve_of_made allowed made
  have resolve (other : Handle) := HandleTable.resolve_invalidate object after.handles other
  refine ⟨((making.step heap).trans spared.toBeside).trans (ending.step after), fun other => ?_⟩
  by_cases own : other = object
  · cases own
    refine .of_bytes ?_ fun _ known => ?_
    · rw [dead]
      exact (resolve object).trans (if_pos rfl)
    · rw [dead] at known
      cases known
  · refine ((sound.others_of_made allowed made own).trans (spared.same other)).trans ?_
    exact .of_bytes ((resolve other).trans (if_neg own)) fun _ _ => rfl

/-- Filling in a new object is not refused. -/
theorem Sound.granted_fillObject (sound : heap.Sound) {object : Handle} {bytes : List UInt8}
    (known : heap.view.contents object .object = .ok bytes) (shape props : Handle)
    (classId : UInt16) : Granted (fillObject shape object props classId heap) := by
  obtain ⟨after, run, -⟩ := sound.fillObject_eq known shape props classId
  exact granted_of_ok (congrArg Outcome.answer run)

/-- A new object gets its property array, or is ended again for lack of space or of handles. -/
theorem Sound.furnishObject_refused (sound : heap.Sound) (accounted : heap.handles.Accounted)
    {object : Handle} {bytes : List UInt8} (known : heap.view.contents object .object = .ok bytes)
    {shape : Handle} {classId : UInt16} {slots : UInt32} {error : HeapError}
    (refused : (furnishObject shape object classId slots heap).answer = .error (.refused error)) :
    error.Shortage ∧ ∃ after, Spared heap after ∧
      (furnishObject shape object classId slots heap).state =
        (onTable (HandleTable.invalidate object) after).state := by
  unfold furnishObject at refused ⊢
  rcases run : allocProperties slots heap with ⟨(e | fault) | props, after, events⟩
  · have tried := attempt_of_refused run
    rw [answer_bind_of_ok tried] at refused
    rw [state_bind_of_ok tried]
    obtain ⟨⟨_, ⟨⟩, shortage⟩, spared⟩ :=
      sound.allocRecord_refused accounted (congrArg Outcome.answer run)
    have kept := accounted_allocRecord .propertyArray (slots.toNat * Slot.size) accounted
    rw [show Heap.allocRecord _ _ heap = _ from run] at kept spared
    obtain ⟨live, gone⟩ := exists_answer_end kept object
    rw [answer_bind_refuse gone] at refused
    cases refused
    exact ⟨shortage, after, spared, state_bind_refuse ..⟩
  · rw [bind_apply_of_error (attempt_of_fault run)] at refused
    cases refused
  · have tried := attempt_of_ok run
    rw [answer_bind_of_ok tried] at refused
    have array : (Heap.allocRecord .propertyArray (slots.toNat * Slot.size) heap).answer =
        .ok props := congrArg Outcome.answer run
    have allowed : 0 < slots.toNat * Slot.size →
        RecordKind.propertyArray.Allows (slots.toNat * Slot.size) := allows_slots
    have made := sound.allocRecord allowed
    rw [array] at made
    have differ : object ≠ props := by
      rintro rfl
      have none := sound.resolve_of_made allowed array
      obtain ⟨placement, live, -⟩ := kind?_eq_some (contents_eq_ok known).1
      rw [live] at none
      cases none
    have kept := sound.others_of_made allowed array differ
    rw [show Heap.allocRecord _ _ heap = _ from run] at kept made
    exact absurd refused
      (made.sound.granted_fillObject (kept.contents.trans known) shape props classId error)

theorem Sound.reverts_makeObject (sound : heap.Sound) (accounted : heap.handles.Accounted)
    (shape : Handle) (classId : UInt16) (slots : UInt32) :
    Reverts heap (makeObject shape classId slots heap) := by
  intro error refused
  rcases run : Heap.allocRecord .object Layout.object.size heap with ⟨stop | object, middle, events⟩
  · have answer := congrArg Outcome.answer run
    have reverts : Reverts heap (Heap.allocRecord .object Layout.object.size heap) :=
      sound.reverts_allocRecord accounted
    unfold makeObject at refused ⊢
    rw [bind_apply_of_error run] at refused ⊢
    cases refused
    rw [run] at reverts
    exact reverts error rfl
  · have made := congrArg Outcome.answer run
    have allowed : 0 < Layout.object.size → RecordKind.object.Allows Layout.object.size :=
      fun _ => rfl
    have made' := sound.allocRecord allowed
    have accounted' := accounted_allocRecord .object Layout.object.size accounted
    have ended {after : Heap}
        (spared : Spared (Heap.allocRecord .object Layout.object.size heap).state after) :=
      sound.spared_of_ended made spared
    rw [run] at made' accounted' ended
    have known := made'.contents
    unfold makeObject at refused ⊢
    rw [answer_bind_of_ok run] at refused
    rw [state_bind_of_ok run]
    split at refused
    · next some =>
      rw [if_pos some]
      obtain ⟨shortage, after, spared, state⟩ :=
        made'.sound.furnishObject_refused accounted' known refused
      exact ⟨fun other => absurd shortage other, fun _ => state ▸ ended spared⟩
    · exact absurd refused (made'.sound.granted_fillObject known shape .null classId error)

theorem Sound.reverts_allocObject (sound : heap.Sound) (accounted : heap.handles.Accounted)
    (shape : Handle) (classId : UInt16) : Reverts heap (allocObject shape classId heap) := by
  have reverts := sound.reverts_makeObject accounted shape classId
  rw [allocObject_eq]
  split
  · exact reverts 0
  · exact Reverts.look_bind fun slots _ => reverts slots

/-! ## 3. Moving records -/

/-- Moving asks for a block, and what follows once there is one is not refused. -/
theorem Sound.reverts_take {ε : Type} (sound : heap.Sound) {action : Action ε Arena Block}
    (requests : Arena.Requests size action) {explain : Arena → ε → AllocError}
    {next : Block → HeapAction β}
    (rest : ∀ block arena events, action heap.arena = ⟨.ok block, arena, events⟩ →
      Granted (next block { heap with arena })) :
    Reverts heap ((onArena explain action >>= next) heap) := by
  have requested := sound.spared_request size
  rcases run : action heap.arena with ⟨e | block, arena, events⟩
  · have state := requests.error (congrArg Outcome.answer run)
    rw [run] at state
    rw [bind_apply_of_error (onArena_apply run), show arena = _ from state]
    refine reverts_of_spared requested fun error refused => ?_
    cases refused
    trivial
  · intro error refused
    rw [answer_bind_of_ok (onArena_apply run)] at refused
    exact absurd refused (rest block arena events run error)

/-- Pointing a live handle elsewhere is not refused. -/
theorem granted_retarget (heap : Heap) {handle : Handle} (live : heap.handles.isLive handle = true)
    (placement : Placement) (event : Event) :
    Granted ((onTable (HandleTable.relocate handle placement) >>= fun _ => emit event) heap) := by
  refine Granted.bind (granted_of_ok (a := ()) ?_) fun _ _ => granted_of_ok rfl
  simp only [onTable, HandleTable.relocate, if_pos live]

theorem Sound.reverts_growRecord (sound : heap.Sound) (handle : Handle) (kind : RecordKind)
    (size : Nat) : Reverts heap (Heap.growRecord handle kind size heap) := by
  refine Reverts.look_bind fun old located => ?_
  obtain ⟨placement, known, -⟩ := locate_eq_ok located
  refine sound.reverts_take (Arena.requests_reallocate old size) fun block arena events _ => ?_
  have found : Heap.placement { heap with arena } handle = pure placement := by
    simp [Heap.placement, known]
  rw [look_bind_of_pure (Heap.placement · handle) found]
  have live : heap.handles.isLive handle = true := HandleTable.isLive_iff.mpr ⟨placement, known⟩
  exact granted_retarget { heap with arena } live _ _

theorem Sound.reverts_relocate (sound : heap.Sound) (handle : Handle) :
    Reverts heap (Heap.relocate handle heap) := by
  refine Reverts.look_bind fun placement found => ?_
  have known := placement_eq_ok found
  split
  · exact reverts_of_same rfl
  · refine sound.reverts_take (Arena.requests_allocate placement.block.len)
      fun block arena events run => ?_
    obtain ⟨taken, -, fresh, -, same⟩ :=
      sound.given (congrArg Outcome.answer run) (congrArg Outcome.state run)
    obtain ⟨⟨count, copied⟩, -⟩ := read_copy_whole (taken.placed known).held fresh.held same
    have copy : changeArena (Arena.copy placement.block block placement.block.len)
        { heap with arena } = ⟨.ok (some count), { heap with
          arena := (arena.copy placement.block block placement.block.len).2 }, []⟩ := by
      simp only [changeArena, show (Arena.copy placement.block block placement.block.len arena).1 =
        some count from copied]
    refine Granted.bind (granted_of_ok (congrArg Outcome.answer copy)) fun moved answer => ?_
    rw [copy] at answer ⊢
    cases answer
    have live : heap.handles.isLive handle = true := HandleTable.isLive_iff.mpr ⟨placement, known⟩
    exact granted_retarget { heap with arena := (arena.copy ..).2 } live _ _

theorem Sound.reverts_growProperties (sound : heap.Sound) (storage : Handle) (capacity : UInt32) :
    Reverts heap (growProperties storage capacity heap) := by
  refine Reverts.look_bind fun current _ => ?_
  split
  · exact Reverts.look_bind fun _ _ => reverts_of_same rfl
  · exact sound.reverts_growRecord storage .propertyArray _

theorem reverts_setPinned (handle : Handle) (pinned : Bool) :
    Reverts heap (setPinned handle pinned heap) := by
  refine Reverts.look_bind fun placement found => ?_
  have live := HandleTable.isLive_iff.mpr ⟨_, placement_eq_ok found⟩
  refine (granted_of_ok (a := ()) ?_).reverts
  simp only [onTable, HandleTable.relocate, if_pos live]

/-! ## 4. Buckets and roots -/

theorem Sound.reverts_hashShape (sound : heap.Sound) (shape : Handle) :
    Reverts heap (hashShape shape heap) := by
  by_cases marked : ∀ bytes, heap.view.contents shape .shape = .ok bytes →
      ShapeField.isHashed.read bytes = true
  · exact reverts_of_same (sound.hashShape_idle marked).1
  · obtain ⟨bytes, known, unmarked⟩ : ∃ bytes, heap.view.contents shape .shape = .ok bytes ∧
        ShapeField.isHashed.read bytes ≠ true := by
      by_contra none
      exact marked fun bytes known => by_contra fun unmarked => none ⟨bytes, known, unmarked⟩
    obtain ⟨after, run, -⟩ := sound.hashShape_eq known (Bool.eq_false_iff.mpr unmarked)
    exact (granted_of_ok (congrArg Outcome.answer run)).reverts

theorem Sound.reverts_unhashShape (sound : heap.Sound) (shape : Handle) :
    Reverts heap (unhashShape shape heap) := by
  intro error refused
  have unhashed := sound.unhashed shape
  rw [refused] at unhashed
  cases unhashed with
  | refused _ same => exact reverts_of_same same error refused

theorem Sound.reverts_internShape (sound : heap.Sound) (accounted : heap.handles.Accounted)
    (proto : Handle) : Reverts heap (internShape proto heap) := by
  refine Reverts.look_bind fun found _ => ?_
  cases found with
  | some shape => exact (granted_of_ok rfl).reverts
  | none =>
    refine (sound.reverts_allocShape accounted proto _).bind_granted fun shape made => ?_
    have new := Sound.allocShape sound proto initialPropSize
    rw [made] at new
    obtain ⟨after, run, -⟩ := new.sound.hashShape_eq new.contents (isHashed_newShape ..)
    refine Granted.bind (granted_of_ok (congrArg Outcome.answer run)) fun _ _ => ?_
    exact granted_of_ok rfl

theorem reverts_addRoot (handle : Handle) : Reverts heap (addRoot handle heap) := by
  refine Reverts.look_bind fun live _ => ?_
  split
  · intro error refused
    rcases run : RootSet.add handle heap.roots with ⟨stop | id, roots, events⟩
    · have full : stop = .fault .freeListUnknown ∨ roots = heap.roots := by
        unfold RootSet.add at run
        split at run
        · unfold RootSet.occupy at run
          split at run <;> cases run
          exact .inl rfl
        · simp only at run
          split at run
          · unfold RootSet.occupy at run
            split at run <;> cases run
            exact .inl rfl
          · cases run
            exact .inr rfl
      have failed : onRoots (RootSet.add handle) heap = ⟨.error stop, { heap with roots }, events⟩ := by
        simp only [onRoots, run]
      rw [bind_apply_of_error failed] at refused ⊢
      cases refused
      rcases full with fault | same
      · cases fault
      · rw [same]
        exact ⟨fun _ => rfl, fun _ => .refl heap⟩
    · have added : onRoots (RootSet.add handle) heap = ⟨.ok id, { heap with roots }, events⟩ := by
        simp only [onRoots, run]
      rw [answer_bind_of_ok added] at refused
      cases refused
  · exact reverts_of_same rfl

theorem reverts_setRoot (id : RootId) (handle : Handle) :
    Reverts heap (setRoot id handle heap) := by
  refine Reverts.look_bind fun live _ => ?_
  split
  · by_cases used : (heap.roots.get? id).isSome = true
    · refine (granted_of_ok (a := ()) ?_).reverts
      simp only [onRoots, RootSet.set, if_pos used]
    · refine reverts_of_same ?_
      simp only [onRoots, RootSet.set, if_neg used]
  · exact reverts_of_same rfl

theorem granted_removeRoot (id : RootId) : Granted (removeRoot id heap) := by
  intro error refused
  simp only [removeRoot, onRoots, RootSet.remove] at refused
  split at refused
  · split at refused <;> cases refused
  · cases refused

/-! ## 5. Operations that are never refused -/

theorem granted_attempt (action : HeapAction α) : Granted (attempt action heap) := by
  intro error refused
  unfold attempt at refused
  rcases run : action heap with ⟨(e | fault) | a, after, events⟩ <;> simp only [run] at refused <;>
    cases refused

theorem granted_end (handle : Handle) :
    Granted (onTable (HandleTable.invalidate handle) heap) := by
  intro error refused
  simp only [onTable, HandleTable.invalidate] at refused
  split at refused
  · split at refused <;> cases refused
  · cases refused

theorem granted_get {layout : Layout} {scalar : Scalar} (handle : Handle)
    (field : Field layout scalar) : Granted (look (·.get handle field) heap) := by
  intro error refused
  simp only [look, get, Report.withDefault] at refused
  rcases run : heap.tryGet handle field with ⟨(e | fault) | a, events⟩ <;>
    simp only [run] at refused <;> cases refused

theorem granted_invalidate (handle : Handle) : Granted (invalidate handle heap) := by
  have ended (heap : Heap) : Granted (onTable (HandleTable.invalidate handle) heap) :=
    granted_end handle
  refine Granted.bind (granted_of_ok rfl) fun kind _ => ?_
  split
  · refine Granted.bind (granted_get handle ShapeField.isHashed) fun marked _ => ?_
    split
    · refine Granted.bind (granted_attempt _) fun tried _ => ?_
      cases tried with
      | ok _ => exact ended _
      | error _ => exact Granted.bind (granted_of_ok (a := ()) rfl) fun _ _ => ended _
    · exact ended _
  · exact ended _

theorem granted_overwrite (handle : Handle) (start : Nat) (source : List UInt8) :
    Granted (overwrite handle start source heap) := by
  refine Granted.bind (granted_of_ok rfl) fun known _ => ?_
  cases known with
  | none => exact granted_of_ok rfl
  | some placement => exact granted_of_ok rfl

theorem answer_teardown (heap : Heap) : (Operation.teardown.perform heap).answer = .ok .done := by
  obtain ⟨config, ⟨memory, capacity, used, epoch, initialized⟩, handles, buckets, roots⟩ := heap
  cases initialized <;> rfl

theorem state_chainContains (start target : Handle) :
    (chainContains start target heap).state = heap :=
  have keeps : (chainContains start target).Keeps fun before after : Heap => after = before :=
    keeps_chainContains start target
  keeps.step heap

/-! ## 6. All operations -/

/-- Writing a slot with a part of what it held. -/
theorem Sound.reverts_reslot (sound : heap.Sound) (storage : Handle) (index : UInt32)
    (content : Slot Handle → Slot Handle) : Reverts heap ((do
      let slot ← look (·.trySlot storage index)
      setSlot storage index (content slot) : HeapAction Unit) heap) :=
  Reverts.look_bind fun slot _ => (edits_setSlot storage index (content slot)).reverts
    sound.toSeparated

theorem Sound.reverts_setElement (sound : heap.Sound) (object : Handle) (index : UInt32)
    (value : Value Handle) : Reverts heap (setElement object index value heap) :=
  Reverts.look_bind fun values _ => (edits_setCell values index value).reverts sound.toSeparated

/-- A refused operation leaves the heap as it was or, for lack of space or handles, spares what it
holds. -/
theorem reverts_perform (sound : heap.Sound) (accounted : heap.handles.Accounted)
    (operation : Operation Handle) (other : ¬ operation.Appends) :
    Reverts heap (operation.perform heap) := by
  have separated := sound.toSeparated
  cases operation with
  | pushElement object value => exact absurd trivial other
  -- Making records.
  | allocObject shape classId => exact (sound.reverts_allocObject accounted shape classId).bind_pure _
  | allocShape proto propSize => exact (sound.reverts_allocShape accounted proto propSize).bind_pure _
  | allocProperties capacity => exact Reverts.bind_pure (sound.reverts_allocRecord accounted) _
  | allocElements capacity => exact Reverts.bind_pure (sound.reverts_allocRecord accounted) _
  | internShape proto => exact (sound.reverts_internShape accounted proto).bind_pure _
  | reserve size =>
    exact sound.reverts_take (Arena.requests_allocate size) fun _ _ _ _ => granted_of_ok rfl
  -- Writing to them.
  | set target field value => exact ((edits_set target field value).reverts separated).bind_pure _
  | overwrite target start source => exact (granted_overwrite target start source).reverts.bind_pure _
  | setSlot storage index content =>
    exact ((edits_setSlot storage index content).reverts separated).bind_pure _
  | setSlotValue storage index value =>
    exact ((edits_setSlot storage index (.value value)).reverts separated).bind_pure _
  | setSlotVarRef storage index target =>
    exact ((edits_setSlot storage index (.varRef target)).reverts separated).bind_pure _
  | setSlotGetter storage index getter =>
    exact (sound.reverts_reslot storage index fun slot => .accessor getter slot.setter).bind_pure _
  | setSlotSetter storage index setter =>
    exact (sound.reverts_reslot storage index fun slot => .accessor slot.getter setter).bind_pure _
  | setElement object index value => exact (sound.reverts_setElement object index value).bind_pure _
  -- Moving, pinning and ending them.
  | growProperties storage capacity => exact (sound.reverts_growProperties storage capacity).bind_pure _
  | relocate target => exact (sound.reverts_relocate target).bind_pure _
  | pin target => exact (reverts_setPinned target true).bind_pure _
  | unpin target => exact (reverts_setPinned target false).bind_pure _
  | invalidate target => exact (granted_invalidate target).reverts.bind_pure _
  | reset => exact (granted_of_ok (a := .done) rfl).reverts
  | teardown => exact (granted_of_ok (answer_teardown heap)).reverts
  -- Buckets and roots.
  | hashShape shape => exact (sound.reverts_hashShape shape).bind_pure _
  | unhashShape shape => exact (sound.reverts_unhashShape shape).bind_pure _
  | addRoot target => exact (reverts_addRoot target).bind_pure _
  | setRoot id target => exact (reverts_setRoot id target).bind_pure _
  | removeRoot id => exact (granted_removeRoot id).reverts.bind_pure _
  | chainContains start target =>
    exact (reverts_of_same (state_chainContains start target)).bind_pure _
  -- The others look at the heap.
  | _ => exact reverts_of_same (state_bind_pure ..)

/-- A refused operation has changed nothing that was there. Refused for lack of space or of handles,
it may have used up space and indices: every handle then names what it named, its place and its
bytes included, and the parts beside the table, the memory and the bump offset are as before. Else
the heap is as it was. -/
theorem refused_of_reached {config : Config} {requested : Nat} (reached : Reached config requested heap)
    (few : requested < sizeLimit) (operation : Operation Handle) (other : ¬ operation.Appends)
    {error : HeapError} (refused : (operation.perform heap).answer = .error (.refused error)) :
    (¬ error.Shortage → (operation.perform heap).state = heap) ∧
      (error.Shortage → Spared heap (operation.perform heap).state ∧
        (operation.perform heap).state.handles.live = heap.handles.live ∧
        (operation.perform heap).state.handles.limit = heap.handles.limit) := by
  obtain ⟨sound, -⟩ := (tracked_of_reached reached).sound few
  have accounted := accounted_of_reached reached
  have setUp := set_up_of_reached reached
  obtain ⟨same, spared⟩ := reverts_perform sound accounted operation other error refused
  exact ⟨same, fun shortage => ⟨spared shortage,
    (spared shortage).live accounted (Accounted.perform accounted operation),
    (setUp.perform operation).limit.trans setUp.limit.symm⟩⟩

/-- An object that fits is ended again when its property array does not. -/
theorem refused_small :
    let operations := smallSession ++ [.reserve 768]
    let heap := newSmall.run operations
    let after := ((Operation.allocObject ⟨1, 0⟩ 7).perform heap).state
    (runCounting 0 newSmall operations).1 < sizeLimit ∧
      ((Operation.allocObject ⟨1, 0⟩ 7).perform heap).answer =
        .error (.refused (.outOfMemory (.exhausted 48 1024 1024))) ∧
      Spared heap after ∧ after.handles.live = heap.handles.live ∧
      after.handles.limit = heap.handles.limit := by
  have reached : Reached { arenaCapacity := 1024 } _ _ :=
    reached_run (.new new_small : Reached _ 0 newSmall) (smallSession ++ [.reserve 768])
  have few : (runCounting 0 newSmall (smallSession ++ [.reserve 768])).1 < sizeLimit := by
    decide +kernel
  have failed : (allocObject ⟨1, 0⟩ 7 (newSmall.run (smallSession ++ [.reserve 768]))).answer =
      .error (.refused (.outOfMemory (.exhausted 48 1024 1024))) := by
    decide +kernel
  have refused : ((Operation.allocObject ⟨1, 0⟩ 7).perform
      (newSmall.run (smallSession ++ [.reserve 768]))).answer =
        .error (.refused (.outOfMemory (.exhausted 48 1024 1024))) := answer_bind_of_error failed
  exact ⟨few, refused, (refused_of_reached reached few _ id refused).2 trivial⟩

end Heap

end HandleHeap
