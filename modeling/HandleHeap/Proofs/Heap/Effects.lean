import HandleHeap.Proofs.Arena.Reallocation
import HandleHeap.Proofs.Heap.Frame
import HandleHeap.Proofs.Heap.View

/-!
# What each change does to the view of a heap

The changes that operations are made of, on a heap whose records lie apart and below the bump
offset, as what they do to its view:

* `Made`: a record is made, zeroed, with the handle that the table issues for its kind;
* `Grown`: a record moves to a block of another size, its bytes cut or followed by zeros;
* `Relocated`: a record moves to a block of the same size, which the view does not show;
* `Repinned`: a record is pinned or unpinned;
* `end_labels`: a handle is ended.

Each says which requests are refused as well, so that these are all the cases there are.
-/

namespace HandleHeap

open HandleHeap.Action

namespace HandleTable

/-- Pointing a handle at what it stands for changes nothing. -/
theorem relocate_same {α : Type} {table : HandleTable α} {handle : Handle} {address : α}
    (known : table.resolve handle = some address) :
    relocate handle address table = ⟨.ok (), table, []⟩ := by
  have live : table.isLive handle = true := isLive_iff.mpr ⟨address, known⟩
  obtain ⟨nonzero, entry⟩ := lookup_eq_some_iff.mp (resolve_eq_some_iff.mp known)
  obtain ⟨inside, entry⟩ := Array.getElem?_eq_some_iff.mp entry
  rw [relocate, if_pos live, setEntry, ← entry, Array.setIfInBounds, dif_pos inside,
    Array.set_getElem_self]

end HandleTable

namespace Heap

variable {heap : Heap}

/-! ## 1. Making a record -/

/-- The view after `size` bytes were asked for, whether they were given or not. -/
def asked (heap : Heap) (size : Nat) : View :=
  { heap.view with usage := (Arena.allocate size heap.arena).state.usage }

/-- What making a record with given bytes comes to. -/
inductive Made (kind : RecordKind) (size : Nat) (bytes : List UInt8) (heap after : Heap) :
    Except Stop Handle → Prop
  | refused {cause : AllocError} :
    (Arena.allocate size heap.arena).answer = .error cause → after.view = heap.asked size →
      Made kind size bytes heap after (.error (.refused (.outOfMemory cause)))
  | full {block : Block} {stop : Stop} {labels : HandleTable Label} :
    (Arena.allocate size heap.arena).answer = .ok block →
      HandleTable.register ⟨kind, false⟩ heap.labels = ⟨.error stop, labels, []⟩ →
      after.view = { heap.asked size with labels } → Made kind size bytes heap after (.error stop)
  | made {block : Block} {handle : Handle} {labels : HandleTable Label} :
    (Arena.allocate size heap.arena).answer = .ok block →
      HandleTable.register ⟨kind, false⟩ heap.labels = ⟨.ok handle, labels, []⟩ →
      after.view = { heap.asked size with labels }.withBytes handle (some bytes) →
      after.Sound → Made kind size bytes heap after (.ok handle)

theorem events_register {α : Type} (address : α) (table : HandleTable α) :
    (HandleTable.register address table).events = [] := by
  rcases HandleTable.register_cases address table with full | ⟨index, start, run, -⟩
  · rw [full]
  · rw [run, HandleTable.occupy]
    split <;> rfl

/-- Asking for a block shows in the usage alone. -/
theorem Sound.view_asked (sound : heap.Sound) (size : Nat) :
    view { heap with arena := (Arena.allocate size heap.arena).state } = heap.asked size := by
  obtain ⟨-, -, same⟩ := sound.requested size
  exact View.ext rfl rfl rfl rfl rfl (funext fun handle => (same handle).bytes)

/-- Changing bytes that no record has does not show. -/
theorem view_filled {writes : Handle → Prop} {block : Block} {arena : Arena}
    (changed : Arena.OnlyIn block heap.arena arena)
    (filled : Touches writes heap { heap with arena }) (spared : ∀ handle, ¬ writes handle) :
    view { heap with arena } = heap.view := by
  refine View.ext rfl ?_ rfl rfl rfl (funext fun handle => (filled.same (spared handle)).bytes)
  simp only [view, Arena.usage, Arena.available, changed.capacity, changed.used, changed.epoch,
    changed.initialized]

/-- Registering a fresh block shows as a new handle for the bytes that the block has. -/
theorem Sound.view_register (sound : heap.Sound) {block : Block} {kind : RecordKind}
    (fresh : heap.Fresh block) (allowed : kind.Allows block.len) {handle : Handle}
    {table : HandleTable Placement}
    (run : HandleTable.register ⟨block, kind, false⟩ heap.handles = ⟨.ok handle, table, []⟩) :
    view { heap with handles := table } =
      { heap.view with labels := table.map Placement.label }.withBytes handle
        (some (heap.arena.memory.read block.offset block.len)) ∧
      Sound { heap with handles := table } := by
  obtain ⟨dead, resolve⟩ := HandleTable.resolve_register run
  obtain ⟨settled, same⟩ := sound.settle fresh allowed resolve
  refine ⟨View.ext rfl rfl rfl rfl rfl (funext fun other => ?_), settled⟩
  show bytes? { heap with handles := table } other = if other = handle then _ else _
  split
  · next own =>
    cases own
    exact settled.bytes?_eq ((resolve handle).trans (if_pos rfl))
  · next differ => exact (same differ).bytes

theorem Sound.allocRecord (sound : heap.Sound) {kind : RecordKind} {size : Nat}
    (allowed : 0 < size → kind.Allows size) :
    Made kind size (List.replicate size 0) heap (allocRecord kind size heap).state
      (allocRecord kind size heap).answer := by
  have asked := sound.view_asked size
  rcases run : Arena.allocate size heap.arena with ⟨e | block, arena, events⟩
  · rw [run] at asked
    have failed : onArena (fun _ e => e) (Arena.allocate size) heap =
        ⟨.error (.refused (.outOfMemory e)), { heap with arena }, events⟩ := onArena_apply run
    rw [Heap.allocRecord, bind_apply_of_error failed]
    exact .refused (congrArg Outcome.answer run) asked
  · have given := congrArg Outcome.answer run
    rw [run] at asked
    obtain ⟨sound', -, fresh, pos, rfl⟩ := sound.given given (congrArg Outcome.state run)
    have taken : onArena (fun _ e => e) (Arena.allocate block.len) heap =
        ⟨.ok block, { heap with arena }, events⟩ := onArena_apply run
    have changed := Arena.onlyIn_clear arena block
    obtain ⟨filled, fresh'⟩ := sound'.fill (fun _ => False) fresh changed
    have clean : Sound { heap with arena := arena.clear block } := filled.sound sound'
    have shown : view { heap with arena := arena.clear block } = heap.asked block.len :=
      (view_filled changed filled fun _ => id).trans asked
    have cleared : changeArena (fun arena => ((), arena.clear block)) { heap with arena } =
        ⟨.ok (), { heap with arena := arena.clear block }, []⟩ := rfl
    have zeros : (arena.clear block).memory.read block.offset block.len =
        List.replicate block.len 0 := by
      rw [← Memory.read_clear arena.memory block.offset]
      simp only [Arena.clear, if_pos fresh.held]
    have none := events_register (⟨block, kind, false⟩ : Placement) heap.handles
    have labels := HandleTable.map_register Placement.label heap.handles ⟨block, kind, false⟩
    rw [Heap.allocRecord, answer_bind_of_ok taken, state_bind_of_ok taken,
      answer_bind_of_ok cleared, state_bind_of_ok cleared]
    rcases run' : HandleTable.register ⟨block, kind, false⟩ heap.handles with
      ⟨stop | handle, table, events'⟩ <;> rw [run'] at none labels <;> cases none
    · have same := HandleTable.resolve_register_error run'
      have registered : onTable (HandleTable.register ⟨block, kind, false⟩)
          { heap with arena := arena.clear block } =
            ⟨.error stop, { heap with arena := arena.clear block, handles := table }, []⟩ :=
        onTable_apply run'
      rw [bind_apply_of_error registered]
      refine .full given labels ?_
      rw [← shown]
      refine View.ext rfl rfl rfl rfl rfl (funext fun other => ?_)
      show bytes? _ other = bytes? _ other
      simp only [bytes?, same]
    · have registered : onTable (HandleTable.register ⟨block, kind, false⟩)
          { heap with arena := arena.clear block } =
            ⟨.ok handle, { heap with arena := arena.clear block, handles := table }, []⟩ :=
        onTable_apply run'
      obtain ⟨viewed, settled⟩ := clean.view_register fresh' (allowed pos) run'
      rw [answer_bind_of_ok registered, state_bind_of_ok registered]
      refine .made given labels ?_ settled
      rw [← shown, ← zeros]
      exact viewed

section Made

variable {after : Heap} {kind : RecordKind} {size : Nat} {bytes : List UInt8}

theorem Made.of_refused {answer : Except Stop Handle} {cause : AllocError}
    (made : Made kind size bytes heap after answer)
    (refused : (Arena.allocate size heap.arena).answer = .error cause) :
    answer = .error (.refused (.outOfMemory cause)) ∧ after.view = heap.asked size := by
  cases made with
  | refused given view =>
    cases given.symm.trans refused
    exact ⟨rfl, view⟩
  | full given => cases given.symm.trans refused
  | made given => cases given.symm.trans refused

/-- With space for a record, it is the handle table that decides. -/
theorem Made.of_given {answer : Except Stop Handle} {block : Block}
    (made : Made kind size bytes heap after answer)
    (given : (Arena.allocate size heap.arena).answer = .ok block) :
    (∃ stop labels, HandleTable.register ⟨kind, false⟩ heap.labels = ⟨.error stop, labels, []⟩ ∧
        answer = .error stop ∧ after.view = { heap.asked size with labels }) ∨
      ∃ handle labels, HandleTable.register ⟨kind, false⟩ heap.labels = ⟨.ok handle, labels, []⟩ ∧
        answer = .ok handle ∧
        after.view = { heap.asked size with labels }.withBytes handle (some bytes) ∧
        after.Sound := by
  cases made with
  | refused refused => cases given.symm.trans refused
  | full _ run view => exact .inl ⟨_, _, run, rfl, view⟩
  | made _ run view sound => exact .inr ⟨_, _, run, rfl, view, sound⟩

/-- Nothing is known of any record that was not known before, when none was made. -/
theorem Made.same_of_error {stop : Stop} (made : Made kind size bytes heap after (.error stop))
    (other : Handle) : after.labels.resolve other = heap.labels.resolve other ∧
      after.bytes? other = heap.bytes? other := by
  cases made with
  | refused given view =>
    exact ⟨congrArg (·.labels.resolve other) view, congrArg (·.bytes other) view⟩
  | full given full view =>
    exact ⟨(congrArg (·.labels.resolve other) view).trans
      (HandleTable.resolve_register_error full other), congrArg (·.bytes other) view⟩

/-- A new record has a handle that named nothing, and no other is affected. -/
theorem Made.resolve_of_ok {handle : Handle} (made : Made kind size bytes heap after (.ok handle)) :
    heap.labels.resolve handle = none ∧
      after.labels.resolve handle = some ⟨kind, false⟩ ∧
      ∀ other, other ≠ handle → after.labels.resolve other = heap.labels.resolve other ∧
        after.bytes? other = heap.bytes? other := by
  cases made with
  | made given registered view sound =>
    obtain ⟨dead, resolve⟩ := HandleTable.resolve_register registered
    have labels (other : Handle) := congrArg (fun view : View => view.labels.resolve other) view
    refine ⟨dead, (labels handle).trans ((resolve handle).trans (if_pos rfl)), fun other differ =>
      ⟨(labels other).trans ((resolve other).trans (if_neg differ)), ?_⟩⟩
    exact (congrArg (·.bytes other) view).trans (if_neg differ)

/-- Where the accounts agree, a record is refused for lack of space or of handles. -/
theorem Made.error_cases {stop : Stop} (made : Made kind size bytes heap after (.error stop))
    (accounted : heap.handles.Accounted) : ∃ error, stop = .refused error ∧
      (error = .handleTableFull ∨ ∃ cause, error = .outOfMemory cause) := by
  cases made with
  | @refused cause given view => exact ⟨_, rfl, .inr ⟨cause, rfl⟩⟩
  | full given full view =>
    have labels : heap.labels.Accounted := (HandleTable.accounted_map ..).mpr accounted
    exact ⟨_, labels.register_eq_error (congrArg Outcome.answer full), .inl rfl⟩

theorem Made.sound {handle : Handle} (made : Made kind size bytes heap after (.ok handle)) :
    after.Sound := by
  cases made with
  | made given registered view sound => exact sound

theorem Made.buckets {answer : Except Stop Handle} (made : Made kind size bytes heap after answer) :
    after.buckets = heap.buckets := by
  cases made with
  | refused given view => exact congrArg View.buckets view
  | full given full view => exact congrArg View.buckets view
  | made given registered view sound => exact congrArg View.buckets view

theorem Made.contents {handle : Handle} (made : Made kind size bytes heap after (.ok handle)) :
    after.view.contents handle kind = .ok bytes := by
  have known : after.view.kind? handle = some kind :=
    congrArg (Option.map Label.kind) made.resolve_of_ok.2.1
  cases made with
  | made given registered view sound =>
    have stored : after.view.bytes handle = some bytes :=
      (congrArg (·.bytes handle) view).trans (if_pos rfl)
    rw [View.contents, known, stored]
    exact if_pos rfl

end Made

/-- The bytes of a new shape. -/
def newShape (proto : Handle) (propSize : UInt32) : List UInt8 :=
  ShapeField.propSize.write propSize (ShapeField.hash.write proto.shapeHash
    (ShapeField.proto.write proto (List.replicate Layout.shape.size 0)))

section NewShape

variable (proto : Handle) (propSize : UInt32)

@[simp]
theorem length_newShape : (newShape proto propSize).length = Layout.shape.size := by
  simp [newShape]

theorem proto_newShape : ShapeField.proto.read (newShape proto propSize) = proto := by
  rw [newShape, Field.read_write_apart _ _ (by decide), Field.read_write_apart _ _ (by decide),
    Field.read_write _ _ List.length_replicate]

theorem hash_newShape : ShapeField.hash.read (newShape proto propSize) = proto.shapeHash := by
  rw [newShape, Field.read_write_apart _ _ (by decide), Field.read_write _ _ (by simp)]

theorem propSize_newShape : ShapeField.propSize.read (newShape proto propSize) = propSize := by
  rw [newShape, Field.read_write _ _ (by simp)]

/-- The other fields of a new shape are zeroed. -/
theorem read_newShape {scalar : Scalar} {field : Field .shape scalar}
    (proto' : field.Apart ShapeField.proto) (hash : field.Apart ShapeField.hash)
    (size : field.Apart ShapeField.propSize) :
    field.read (newShape proto propSize) = scalar.sentinel := by
  rw [newShape, Field.read_write_apart _ _ size, Field.read_write_apart _ _ hash,
    Field.read_write_apart _ _ proto', Field.read_zeros]

theorem isHashed_newShape : ShapeField.isHashed.read (newShape proto propSize) = false :=
  read_newShape proto propSize (by decide) (by decide) (by decide)

theorem propCount_newShape : ShapeField.propCount.read (newShape proto propSize) = 0 :=
  read_newShape proto propSize (by decide) (by decide) (by decide)

end NewShape

/-- Filling in a new shape tells an observer nothing more than that it was made. -/
theorem Sound.allocShape_eq (sound : heap.Sound) (proto : Handle) (propSize : UInt32) :
    ∃ after, Heap.allocShape proto propSize heap =
        ⟨(Heap.allocRecord .shape Layout.shape.size heap).answer, after,
          (Heap.allocRecord .shape Layout.shape.size heap).events⟩ ∧
      Made .shape Layout.shape.size (newShape proto propSize) heap after
        (Heap.allocRecord .shape Layout.shape.size heap).answer := by
  have allowed : RecordKind.shape.Allows Layout.shape.size := rfl
  have made := sound.allocRecord fun _ => allowed
  unfold Heap.allocShape
  rcases run : Heap.allocRecord .shape Layout.shape.size heap with ⟨stop | shape, after, events⟩ <;>
    rw [run] at made
  · refine ⟨after, bind_apply_of_error run, ?_⟩
    cases made with
    | refused given view => exact .refused given view
    | full given full view => exact .full given full view
  · have known : after.view.contents shape .shape = .ok (List.replicate Layout.shape.size 0) :=
      made.contents
    cases made with
    | made given registered view sound' =>
      obtain ⟨a, setProto, soundA, viewA⟩ := sound'.set_eq known ShapeField.proto proto
      have known := (congrArg (·.contents shape .shape) viewA).trans
        (View.contents_withBytes_self _ known _)
      obtain ⟨b, setHash, soundB, viewB⟩ := soundA.set_eq known ShapeField.hash proto.shapeHash
      have known := (congrArg (·.contents shape .shape) viewB).trans
        (View.contents_withBytes_self _ known _)
      obtain ⟨c, setSize, soundC, viewC⟩ := soundB.set_eq known ShapeField.propSize propSize
      refine ⟨c, ?_, .made given registered ?_ soundC⟩
      · rw [bind_apply_of_ok run, bind_apply_of_ok setProto, bind_apply_of_ok setHash,
          bind_apply_of_ok setSize]
        simp only [pure_apply, List.append_nil]
      · simp only [viewC, viewB, viewA, view, View.withBytes_withBytes]
        rfl

theorem Sound.allocShape (sound : heap.Sound) (proto : Handle) (propSize : UInt32) :
    Made .shape Layout.shape.size (newShape proto propSize) heap
      (Heap.allocShape proto propSize heap).state
      (Heap.allocShape proto propSize heap).answer := by
  obtain ⟨after, run, made⟩ := sound.allocShape_eq proto propSize
  rw [run]
  exact made

/-! ## 2. Moving a record -/

/-- What moving a record to a block of another size comes to. -/
inductive Grown (handle : Handle) (kind : RecordKind) (size : Nat) (heap after : Heap) :
    Except Stop Unit → Prop
  | missing {stop : Stop} : heap.view.contents handle kind = .error stop → after = heap →
      Grown handle kind size heap after (.error stop)
  | refused {bytes : List UInt8} {cause : AllocError} :
    heap.view.contents handle kind = .ok bytes →
      (Arena.allocate size heap.arena).answer = .error cause → after.view = heap.asked size →
      Grown handle kind size heap after (.error (.refused (.outOfMemory
        (.exhausted size after.arena.used after.arena.capacity))))
  | grown {bytes : List UInt8} {block : Block} :
    heap.view.contents handle kind = .ok bytes →
      (Arena.allocate size heap.arena).answer = .ok block →
      after.view = (heap.asked size).withBytes handle (some (fitted bytes size)) →
      after.Sound → Grown handle kind size heap after (.ok ())

/-- Pointing a handle at a fresh block shows as the bytes that the block has. -/
theorem Sound.view_move (sound : heap.Sound) {handle : Handle} {old : Placement}
    (placement : Placement) (known : heap.handles.resolve handle = some old)
    (label : placement.label = old.label) (fresh : heap.Fresh placement.block)
    (allowed : placement.kind.Allows placement.block.len) :
    view { heap with handles := (HandleTable.relocate handle placement heap.handles).state } =
      heap.view.withBytes handle
        (some (heap.arena.memory.read placement.block.offset placement.block.len)) ∧
      Sound { heap with handles := (HandleTable.relocate handle placement heap.handles).state } := by
  have live : heap.handles.isLive handle = true := HandleTable.isLive_iff.mpr ⟨old, known⟩
  have resolve := HandleTable.resolve_relocate live placement
  obtain ⟨settled, same⟩ := sound.settle fresh allowed resolve
  have labels : (HandleTable.relocate handle placement heap.handles).state.map Placement.label =
      heap.labels := by
    have resolved : heap.labels.resolve handle = some placement.label := by
      rw [resolve_labels, known, label]
      rfl
    have moved := HandleTable.map_relocate Placement.label heap.handles handle placement
    exact (congrArg Outcome.state moved).symm.trans
      (congrArg Outcome.state (HandleTable.relocate_same resolved))
  refine ⟨View.ext rfl rfl labels rfl rfl (funext fun other => ?_), settled⟩
  show bytes? _ other = if other = handle then _ else _
  split
  · next own =>
    cases own
    exact settled.bytes?_eq ((resolve handle).trans (if_pos rfl))
  · next differ => exact (same differ).bytes

/-- A move takes a fresh block with the old bytes, cut or followed by zeros, or nothing. -/
theorem Sound.reallocate (sound : heap.Sound) {handle : Handle} {old : Placement}
    (known : heap.handles.resolve handle = some old) (size : Nat) :
    (∃ cause events, (Arena.allocate size heap.arena).answer = .error cause ∧
        Arena.reallocate (some old.block) size heap.arena =
          ⟨.error (), (Arena.allocate size heap.arena).state, events⟩) ∨
      ∃ block arena events, (Arena.allocate size heap.arena).answer = .ok block ∧
        Arena.reallocate (some old.block) size heap.arena = ⟨.ok block, arena, events⟩ ∧
        arena.memory.read block.offset block.len =
          fitted (heap.arena.memory.read old.block.offset old.block.len) size := by
  cases given : (Arena.allocate size heap.arena).answer with
  | error cause => exact .inl ⟨cause, _, rfl, Arena.reallocate_of_error _ given⟩
  | ok block =>
    obtain ⟨-, -, fresh, -, rfl⟩ := sound.given given rfl
    have run := Arena.reallocate_of_ok old.block given fresh.held
    have read := Arena.bytes?_reallocate_of_held given (sound.placed known).held (fresh.apart known)
    rw [run] at read
    exact .inr ⟨block, _, _, rfl, run, Arena.read_of_bytes? read⟩

/-- Where there is no record of the kind, nothing is asked for. -/
theorem growRecord_of_missing {handle : Handle} {kind : RecordKind} {stop : Stop}
    (none : heap.view.contents handle kind = .error stop) (size : Nat) :
    ∃ events, growRecord handle kind size heap = ⟨.error stop, heap, events⟩ := by
  obtain ⟨error, events, rfl, refused⟩ := locate_eq_error none
  exact ⟨events, look_bind_of_error (Heap.locate · handle kind) refused⟩

/-- Growing moves the record, keeps its label and its other bytes. -/
theorem Sound.growRecord (sound : heap.Sound) (handle : Handle) {kind : RecordKind} {size : Nat}
    (allowed : kind.Allows size) :
    Grown handle kind size heap (growRecord handle kind size heap).state
      (growRecord handle kind size heap).answer := by
  have asked := sound.view_asked size
  cases known : heap.view.contents handle kind with
  | error stop =>
    obtain ⟨events, run⟩ := growRecord_of_missing known size
    rw [run]
    exact .missing known rfl
  | ok bytes =>
    obtain ⟨old, resolved, rfl, located⟩ := locate_eq_pure known
    have stored : bytes = heap.arena.memory.read old.block.offset old.block.len := by
      rw [← (contents_eq_ok known).2, sound.bytes?_eq resolved]
      rfl
    rw [Heap.growRecord, look_bind_of_pure (Heap.locate · handle old.kind) located]
    rcases sound.reallocate resolved size with
      ⟨cause, events, given, run⟩ | ⟨block, arena, events, given, run, read⟩
    · rw [bind_apply_of_error (onArena_apply run)]
      exact .refused known given asked
    · obtain ⟨taken, -, fresh, -, len⟩ := sound.given given rfl
      have answered : (Arena.reallocate (some old.block) size heap.arena).answer = .ok block :=
        congrArg Outcome.answer run
      have changed := ((Arena.requests_reallocate old.block size).ok answered).2
      rw [run] at changed
      obtain ⟨filled, fresh'⟩ := taken.fill (fun _ => False) fresh changed
      have shown : view { heap with arena } = heap.asked size :=
        (view_filled changed filled fun _ => id).trans asked
      have found : placement { heap with arena } handle = pure old := by
        simp [placement, resolved]
      have clean : Sound { heap with arena } := filled.sound taken
      obtain ⟨viewed, settled⟩ :=
        clean.view_move { old with block } resolved rfl fresh' (by rw [len]; exact allowed)
      have live : heap.handles.isLive handle = true :=
        HandleTable.isLive_iff.mpr ⟨old, resolved⟩
      have moved : onTable (HandleTable.relocate handle { old with block }) { heap with arena } =
          ⟨.ok (), { heap with
            arena := arena
            handles := (HandleTable.relocate handle { old with block } heap.handles).state },
            []⟩ := by
        simp only [onTable, HandleTable.relocate, if_pos live]
      rw [answer_bind_of_ok (onArena_apply run), state_bind_of_ok (onArena_apply run),
        look_bind_of_pure (Heap.placement · handle) found, answer_bind_of_ok moved,
        state_bind_of_ok moved]
      refine .grown known given ?_ settled
      rw [← shown, stored, ← read]
      exact viewed

section Grown

variable {after : Heap} {handle : Handle} {kind : RecordKind} {size : Nat} {bytes : List UInt8}
variable {answer : Except Stop Unit}

theorem Grown.of_missing {stop : Stop} (grown : Grown handle kind size heap after answer)
    (none : heap.view.contents handle kind = .error stop) :
    answer = .error stop ∧ after = heap := by
  cases grown with
  | missing none' same =>
    cases none'.symm.trans none
    exact ⟨rfl, same⟩
  | refused known => cases known.symm.trans none
  | grown known => cases known.symm.trans none

/-- What is told is where the offset went when the request was refused. -/
theorem Grown.of_refused {cause : AllocError} (grown : Grown handle kind size heap after answer)
    (known : heap.view.contents handle kind = .ok bytes)
    (refused : (Arena.allocate size heap.arena).answer = .error cause) :
    answer = .error (.refused (.outOfMemory
        (.exhausted size after.arena.used after.arena.capacity))) ∧
      after.view = heap.asked size := by
  cases grown with
  | missing none => cases none.symm.trans known
  | refused _ _ view => exact ⟨rfl, view⟩
  | grown _ given => cases given.symm.trans refused

theorem Grown.of_given {block : Block} (grown : Grown handle kind size heap after answer)
    (known : heap.view.contents handle kind = .ok bytes)
    (given : (Arena.allocate size heap.arena).answer = .ok block) :
    answer = .ok () ∧ after.view = (heap.asked size).withBytes handle (some (fitted bytes size)) ∧
      after.Sound := by
  cases grown with
  | missing none => cases none.symm.trans known
  | refused _ refused => cases given.symm.trans refused
  | grown known' _ view settled =>
    cases known'.symm.trans known
    exact ⟨rfl, view, settled⟩

end Grown

theorem read_copy_whole {arena : Arena} {source target : Block}
    (held : arena.holds source = true) (held' : arena.holds target = true)
    (same : target.len = source.len) :
    (∃ count, (arena.copy source target source.len).1 = some count) ∧
      (arena.copy source target source.len).2.memory.read target.offset target.len =
        arena.memory.read source.offset source.len := by
  obtain ⟨offset, len, epoch⟩ := target
  cases same
  have whole (bytes : List UInt8) : (arena.memory.read source.offset source.len).length =
      (arena.memory.read offset source.len).length := by simp
  have written := arena.memory.read_write offset source.len 0
    (arena.memory.read source.offset source.len)
  rw [Nat.add_zero, Nat.sub_zero, splice_whole (whole []),
    List.take_of_length_le (by simp)] at written
  simp only [Arena.copy, held, held', Bool.and_self, if_true, Nat.min_self, written]
  exact ⟨⟨_, rfl⟩, trivial⟩

/-- What moving a record to a block of the same size comes to. -/
inductive Relocated (handle : Handle) (heap after : Heap) : Except Stop Unit → Prop
  | missing : heap.labels.resolve handle = none → after = heap →
      Relocated handle heap after (.error (.refused .invalidHandle))
  | pinned {kind : RecordKind} : heap.labels.resolve handle = some ⟨kind, true⟩ → after = heap →
      Relocated handle heap after (.error (.refused .pinned))
  | refused {kind : RecordKind} {bytes : List UInt8} {cause : AllocError} :
    heap.labels.resolve handle = some ⟨kind, false⟩ → heap.bytes? handle = some bytes →
      (Arena.allocate bytes.length heap.arena).answer = .error cause →
      after.view = heap.asked bytes.length →
      Relocated handle heap after (.error (.refused (.outOfMemory cause)))
  | moved {kind : RecordKind} {bytes : List UInt8} {block : Block} :
    heap.labels.resolve handle = some ⟨kind, false⟩ → heap.bytes? handle = some bytes →
      (Arena.allocate bytes.length heap.arena).answer = .ok block →
      after.view = heap.asked bytes.length → after.Sound → Relocated handle heap after (.ok ())

/-- Putting the bytes that a record has in their place changes nothing. -/
theorem withBytes_same {handle : Handle} {bytes : List UInt8} {view : View}
    (stored : view.bytes handle = some bytes) : view.withBytes handle (some bytes) = view := by
  refine View.ext rfl rfl rfl rfl rfl (funext fun other => ?_)
  show (if other = handle then _ else _) = _
  split
  · next own => rw [own, stored]
  · rfl

/-- A record that is copied to a block of its size and found there is the record that it was. -/
theorem Sound.view_copied (sound : heap.Sound) {handle : Handle} {old block : Block}
    {kind : RecordKind} (resolved : heap.handles.resolve handle = some ⟨old, kind, false⟩)
    {arena : Arena} {events : List Event}
    (run : Arena.allocate old.len heap.arena = ⟨.ok block, arena, events⟩) :
    let placement : Placement := ⟨block, kind, false⟩
    let moved : Heap := { heap with
      arena := (arena.copy old block old.len).2
      handles := (HandleTable.relocate handle placement heap.handles).state }
    (∃ count, (arena.copy old block old.len).1 = some count) ∧
      moved.view = heap.asked old.len ∧ moved.Sound := by
  have asked := sound.view_asked old.len
  have given := congrArg Outcome.answer run
  rw [run] at asked
  obtain ⟨taken, -, fresh, -, same⟩ := sound.given given (congrArg Outcome.state run)
  have memory : arena.memory = heap.arena.memory := by
    have moved := Arena.state_allocate sound.regular.used_lt old.len
    rw [run] at moved
    exact (congrArg Arena.memory moved :)
  have held : arena.holds old = true := (taken.placed resolved).held
  have held' : arena.holds block = true := fresh.held
  have changed := Arena.onlyIn_copy arena old block old.len
  obtain ⟨copied, bytes⟩ := read_copy_whole held held' same
  -- The bytes go to the fresh block first, and the handle follows them there.
  obtain ⟨filled, fresh'⟩ := taken.fill (fun _ => False) fresh changed
  have clean : Sound { heap with arena := (arena.copy old block old.len).2 } := filled.sound taken
  have shown := (view_filled changed filled fun _ => id).trans asked
  have allowed : kind.Allows block.len := by
    rw [same]
    exact (sound.placed resolved).allowed
  obtain ⟨viewed, settled⟩ := clean.view_move ⟨block, kind, false⟩ resolved rfl fresh' allowed
  refine ⟨copied, viewed.trans ?_, settled⟩
  rw [shown, bytes, memory]
  exact withBytes_same (sound.bytes?_eq resolved)

theorem Sound.relocate (sound : heap.Sound) (handle : Handle) :
    Relocated handle heap (relocate handle heap).state (relocate handle heap).answer := by
  have label := heap.resolve_labels handle
  rcases resolved : heap.handles.resolve handle with _ | ⟨old, kind, pinned⟩
  · have found : placement heap handle = ⟨.error (.refused .invalidHandle), []⟩ := by
      rw [placement, resolved]
      rfl
    rw [resolved] at label
    rw [Heap.relocate, look_bind_of_error (Heap.placement · handle) found]
    exact .missing label rfl
  have found : placement heap handle = pure ⟨old, kind, pinned⟩ := by
    simp [placement, resolved]
  have stored := sound.bytes?_eq resolved
  have len : (heap.arena.memory.read old.offset old.len).length = old.len := Memory.length_read ..
  rw [resolved] at label
  rw [Heap.relocate, look_bind_of_pure (Heap.placement · handle) found]
  cases pinned with
  | true => exact .pinned label rfl
  | false =>
    simp only [Bool.false_eq_true, if_false]
    rcases run : Arena.allocate old.len heap.arena with ⟨cause | block, arena, events⟩
    · have asked := sound.view_asked old.len
      rw [run] at asked
      rw [bind_apply_of_error (onArena_apply run)]
      exact .refused label stored (len.symm ▸ congrArg Outcome.answer run) (len.symm ▸ asked)
    · obtain ⟨⟨count, copied⟩, view, settled⟩ := sound.view_copied resolved run
      have live : heap.handles.isLive handle = true := HandleTable.isLive_iff.mpr ⟨_, resolved⟩
      have run' : changeArena (Arena.copy old block old.len) { heap with arena } =
          ⟨.ok (some count), { heap with arena := (arena.copy old block old.len).2 }, []⟩ := by
        simp only [changeArena, copied]
      have moved : onTable (HandleTable.relocate handle ⟨block, kind, false⟩)
          { heap with arena := (arena.copy old block old.len).2 } =
          ⟨.ok (), { heap with
            arena := (arena.copy old block old.len).2
            handles := (HandleTable.relocate handle ⟨block, kind, false⟩ heap.handles).state },
            []⟩ := by
        simp only [onTable, HandleTable.relocate, if_pos live]
      rw [answer_bind_of_ok (onArena_apply run), state_bind_of_ok (onArena_apply run),
        answer_bind_of_ok run', state_bind_of_ok run', answer_bind_of_ok moved,
        state_bind_of_ok moved]
      exact .moved label stored (len.symm ▸ congrArg Outcome.answer run) (len.symm ▸ view) settled

section Relocated

variable {after : Heap} {handle : Handle} {kind : RecordKind} {answer : Except Stop Unit}

theorem Relocated.of_missing (relocated : Relocated handle heap after answer)
    (known : heap.labels.resolve handle = none) :
    answer = .error (.refused .invalidHandle) ∧ after = heap := by
  cases relocated with
  | missing _ same => exact ⟨rfl, same⟩
  | pinned known' => cases known'.symm.trans known
  | refused known' => cases known'.symm.trans known
  | moved known' => cases known'.symm.trans known

theorem Relocated.of_pinned (relocated : Relocated handle heap after answer)
    (known : heap.labels.resolve handle = some ⟨kind, true⟩) :
    answer = .error (.refused .pinned) ∧ after = heap := by
  cases relocated with
  | missing known' => cases known'.symm.trans known
  | pinned _ same => exact ⟨rfl, same⟩
  | refused known' => cases known'.symm.trans known
  | moved known' => cases known'.symm.trans known

/-- A record that is not pinned is moved if and only if the arena gives it as many bytes again. -/
theorem Relocated.of_unpinned (relocated : Relocated handle heap after answer)
    (known : heap.labels.resolve handle = some ⟨kind, false⟩) :
    ∃ bytes, heap.bytes? handle = some bytes ∧ after.view = heap.asked bytes.length ∧
      answer = ((Arena.allocate bytes.length heap.arena).answer.map fun _ => ()).mapError
        (fun cause => .refused (.outOfMemory cause)) ∧ (answer = .ok () → after.Sound) := by
  cases relocated with
  | missing known' => cases known'.symm.trans known
  | pinned known' => cases known'.symm.trans known
  | refused _ stored given view => exact ⟨_, stored, view, by rw [given]; rfl, nofun⟩
  | moved _ stored given view settled =>
    exact ⟨_, stored, view, by rw [given]; rfl, fun _ => settled⟩

end Relocated

/-! ## 3. Pins and ends -/

/-- What pinning or unpinning a record comes to. -/
inductive Repinned (handle : Handle) (pinned : Bool) (heap after : Heap) :
    Except Stop Unit → Prop
  | missing : heap.labels.resolve handle = none → after = heap →
      Repinned handle pinned heap after (.error (.refused .invalidHandle))
  | repinned {label : Label} : heap.labels.resolve handle = some label →
      after.view = { heap.view with
        labels := (HandleTable.relocate handle { label with pinned } heap.labels).state } →
      Repinned handle pinned heap after (.ok ())

theorem Sound.setPinned (sound : heap.Sound) (handle : Handle) (pinned : Bool) :
    Repinned handle pinned heap (setPinned handle pinned heap).state
      (setPinned handle pinned heap).answer := by
  have label := heap.resolve_labels handle
  cases resolved : heap.handles.resolve handle with
  | none =>
    have found : placement heap handle = ⟨.error (.refused .invalidHandle), []⟩ := by
      rw [placement, resolved]
      rfl
    rw [resolved] at label
    rw [Heap.setPinned, look_bind_of_error (Heap.placement · handle) found]
    exact .missing label rfl
  | some old =>
    have found : placement heap handle = pure old := by simp [placement, resolved]
    have live : heap.handles.isLive handle = true := HandleTable.isLive_iff.mpr ⟨_, resolved⟩
    have touches := (touches_setPinned handle pinned).step heap sound.toSeparated
    have moved := HandleTable.map_relocate Placement.label heap.handles handle { old with pinned }
    rw [resolved] at label
    rw [Heap.setPinned, look_bind_of_pure (Heap.placement · handle) found] at touches ⊢
    have run : onTable (HandleTable.relocate handle { old with pinned }) heap =
        ⟨.ok (), { heap with
          handles := (HandleTable.relocate handle { old with pinned } heap.handles).state },
          []⟩ := by
      simp only [onTable, HandleTable.relocate, if_pos live]
    rw [run] at touches ⊢
    refine .repinned label ?_
    refine View.ext rfl rfl (congrArg Outcome.state moved).symm rfl rfl (funext fun other => ?_)
    by_cases own : other = handle
    · have resolve := HandleTable.resolve_relocate live { old with pinned } other
      rw [if_pos own] at resolve
      have stored := sound.bytes?_eq resolved
      cases own
      exact (touches.separated.bytes?_eq resolve).trans stored.symm
    · exact (touches.same own).bytes

/-- A record that is pinned or unpinned has its kind and its bytes. -/
theorem Repinned.rests {after : Heap} {handle : Handle} {pinned : Bool} {answer : Except Stop Unit}
    (repinned : Repinned handle pinned heap after answer) (other : Handle) :
    View.Rests other heap.view after.view := by
  cases repinned with
  | missing none same =>
    rw [same]
    exact .refl ..
  | @repinned label known view =>
    rw [view]
    refine ⟨?_, rfl⟩
    have live : heap.labels.isLive handle = true := HandleTable.isLive_iff.mpr ⟨label, known⟩
    have resolve := HandleTable.resolve_relocate live { label with pinned } other
    show Option.map _ _ = Option.map _ _
    rw [resolve]
    split
    · next own =>
      rw [own]
      exact (congrArg (Option.map Label.kind) known).symm
    · rfl

/-- A record that is moved has its kind and its bytes. -/
theorem Relocated.rests {after : Heap} {handle : Handle} {answer : Except Stop Unit}
    (relocated : Relocated handle heap after answer) (other : Handle) :
    View.Rests other heap.view after.view := by
  cases relocated with
  | missing none same | pinned known same =>
    rw [same]
    exact .refl ..
  | refused known bytes given view | moved known bytes given view sound =>
    rw [view]
    exact ⟨rfl, rfl⟩

/-- Ending a handle takes its bytes away, and does to the labels what it does to the table. -/
theorem end_labels (heap : Heap) (handle : Handle) :
    (onTable (HandleTable.invalidate handle) heap).answer =
        (HandleTable.invalidate handle heap.labels).answer ∧
      (onTable (HandleTable.invalidate handle) heap).state.view =
        { heap.view with labels := (HandleTable.invalidate handle heap.labels).state }.withBytes
          handle none := by
  have mapped := HandleTable.map_invalidate Placement.label heap.handles handle
  refine ⟨(congrArg Outcome.answer mapped).symm,
    View.ext rfl rfl (congrArg Outcome.state mapped).symm rfl rfl (funext fun other => ?_)⟩
  have resolve := HandleTable.resolve_invalidate handle heap.handles other
  show (onTable (HandleTable.invalidate handle) heap).state.bytes? other =
    if other = handle then none else heap.bytes? other
  simp only [bytes?, onTable, resolve]
  split <;> rfl

end Heap

end HandleHeap
