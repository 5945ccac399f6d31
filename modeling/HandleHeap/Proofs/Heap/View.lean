import HandleHeap.Proofs.Handle.Renaming
import HandleHeap.Proofs.Heap.Writing
import HandleHeap.Proofs.Record.Window

/-!
# What a heap is to those who use it

A record is reached through its handle alone, so where it is cannot be told. `Heap.view` is what is
left of a heap without the places of its records: the table of handles with kinds and pins, the
bytes of each record, and the rest of the heap.

In a heap whose records lie apart,

* what is read of a record is read of its bytes: `answer_tryGet`, `answer_get`, `answer_trySlot`;
* writing to a record puts other bytes in place of its bytes and changes nothing else of the view
  (`Edits`): `edits_set`, `edits_setSlot`, `edits_setCell`.
-/

namespace HandleHeap

open HandleHeap.Action

/-! ## 1. Views -/

/-- What is known of a record without its bytes. -/
structure Label where
  kind : RecordKind
  pinned : Bool
  deriving DecidableEq, Repr

def Placement.label (placement : Placement) : Label := ⟨placement.kind, placement.pinned⟩

/-- A heap without the places of its records. -/
@[ext]
structure View where
  config : Config
  usage : ArenaUsage
  labels : HandleTable Label
  buckets : ShapeBuckets
  roots : RootSet
  bytes : Handle → Option (List UInt8)

namespace View

def kind? (view : View) (handle : Handle) : Option RecordKind :=
  (view.labels.resolve handle).map Label.kind

/-- The bytes of a record of the expected kind, or why there are none. -/
def contents (view : View) (handle : Handle) (expected : RecordKind) : Except Stop (List UInt8) :=
  match view.kind? handle with
  | none => .error (.refused .invalidHandle)
  | some found =>
    if found = expected then .ok ((view.bytes handle).getD [])
    else .error (.refused (.kindMismatch expected found))

theorem kind?_of_contents {view : View} {handle : Handle} {kind : RecordKind} {bytes : List UInt8}
    (known : view.contents handle kind = .ok bytes) : view.kind? handle = some kind := by
  unfold contents at known
  split at known
  · cases known
  · next found some =>
    split at known
    · next same => exact same ▸ some
    · cases known

/-- What a field holds, or the sentinel of its type where there is no such record. -/
def field {layout : Layout} {scalar : Scalar} (view : View) (handle : Handle)
    (field : Field layout scalar) : scalar.Carrier Handle :=
  match view.contents handle layout.kind with
  | .ok bytes => field.read bytes
  | .error _ => scalar.sentinel

/-- The number of cells of a record, 0 where there is none. -/
def capacity (view : View) (handle : Handle) (kind : RecordKind) (stride : Nat) : UInt32 :=
  match view.contents handle kind with
  | .ok bytes => UInt32.ofNat (bytes.length / stride)
  | .error _ => 0

/-- The bytes of a cell of a record, or why there is none. -/
def cell (view : View) (handle : Handle) (kind : RecordKind) (index : UInt32) (stride : Nat) :
    Except Stop (List UInt8) := do
  let bytes ← view.contents handle kind
  let start ← Heap.cell bytes.length index stride
  return window bytes start stride

/-- The view with other bytes for a handle, or none. -/
def withBytes (view : View) (handle : Handle) (bytes : Option (List UInt8)) : View :=
  { view with bytes := fun other => if other = handle then bytes else view.bytes other }

section Bytes

variable (view : View)

theorem contents_withBytes (handle : Handle) (bytes : Option (List UInt8)) (other : Handle)
    (kind : RecordKind) :
    (view.withBytes handle bytes).contents other kind =
      if other = handle then (view.contents other kind).map fun _ => bytes.getD []
      else view.contents other kind := by
  have same : (view.withBytes handle bytes).kind? other = view.kind? other := rfl
  unfold contents
  rw [same]
  simp only [withBytes]
  by_cases own : other = handle
  · simp only [if_pos own]
    cases view.kind? other with
    | none => rfl
    | some found => by_cases fits : found = kind <;> simp only [fits, if_true, if_false] <;> rfl
  · simp only [if_neg own]

theorem contents_withBytes_self {handle : Handle} {kind : RecordKind} {bytes : List UInt8}
    (known : view.contents handle kind = .ok bytes) (other : List UInt8) :
    (view.withBytes handle (some other)).contents handle kind = .ok other := by
  rw [contents_withBytes, if_pos rfl, known]
  rfl

theorem contents_withBytes_ne {handle other : Handle} (differ : other ≠ handle)
    (bytes : Option (List UInt8)) (kind : RecordKind) :
    (view.withBytes handle bytes).contents other kind = view.contents other kind := by
  rw [contents_withBytes, if_neg differ]

theorem withBytes_withBytes (handle : Handle) (bytes other : Option (List UInt8)) :
    (view.withBytes handle bytes).withBytes handle other = view.withBytes handle other := by
  refine View.ext rfl rfl rfl rfl rfl (funext fun h => ?_)
  show (if h = handle then other else if h = handle then bytes else _) = if h = handle then _ else _
  by_cases own : h = handle
  · rw [if_pos own, if_pos own]
  · rw [if_neg own, if_neg own, if_neg own]

end Bytes

/-- A record is of the kind and has the bytes that it was of and had. -/
structure Rests (handle : Handle) (before after : View) : Prop where
  kind : after.kind? handle = before.kind? handle
  bytes : after.bytes handle = before.bytes handle

theorem Rests.refl (handle : Handle) (view : View) : Rests handle view view := ⟨rfl, rfl⟩

theorem Rests.contents {handle : Handle} {before after : View} (rests : Rests handle before after)
    (kind : RecordKind) : after.contents handle kind = before.contents handle kind := by
  simp only [View.contents, rests.kind, rests.bytes]

theorem Rests.field {handle : Handle} {before after : View} (rests : Rests handle before after)
    {scalar : Scalar} {layout : Layout} (field : Field layout scalar) :
    after.field handle field = before.field handle field := by
  rw [View.field, View.field, rests.contents]

end View

namespace Heap

variable {heap : Heap}

def labels (heap : Heap) : HandleTable Label := heap.handles.map Placement.label

def view (heap : Heap) : View :=
  ⟨heap.config, heap.arena.usage, heap.labels, heap.buckets, heap.roots, heap.bytes?⟩

theorem resolve_labels (handle : Handle) :
    heap.labels.resolve handle = (heap.handles.resolve handle).map Placement.label :=
  HandleTable.resolve_map ..

theorem kind?_view (handle : Handle) : heap.view.kind? handle = heap.kind? handle := by
  simp only [View.kind?, view, resolve_labels, Option.map_map, kind?]
  rfl

theorem isPinned_labels (handle : Handle) :
    heap.isPinned handle = (heap.labels.resolve handle).any Label.pinned := by
  rw [resolve_labels, Option.any_map]
  rfl

theorem isLive_labels (handle : Handle) : heap.labels.isLive handle = heap.isLive handle :=
  HandleTable.isLive_map ..

/-- Contents are those of a live record of the kind. -/
theorem contents_eq_ok {handle : Handle} {kind : RecordKind} {bytes : List UInt8}
    (h : heap.view.contents handle kind = .ok bytes) :
    heap.kind? handle = some kind ∧ (heap.bytes? handle).getD [] = bytes := by
  have known := View.kind?_of_contents h
  refine ⟨(kind?_view handle).symm.trans known, ?_⟩
  rw [View.contents, known] at h
  simp only [if_true] at h
  exact Except.ok.inj h

theorem contents_of_kind? {handle : Handle} {kind : RecordKind}
    (known : heap.kind? handle = some kind) :
    heap.view.contents handle kind = .ok ((heap.bytes? handle).getD []) := by
  rw [View.contents, kind?_view, known]
  exact if_pos rfl

theorem kind?_eq_some {handle : Handle} {kind : RecordKind} (h : heap.kind? handle = some kind) :
    ∃ placement, heap.handles.resolve handle = some placement ∧ placement.kind = kind :=
  Option.map_eq_some_iff.mp h

theorem ne_null_of_kind? {handle : Handle} {kind : RecordKind}
    (known : heap.kind? handle = some kind) : handle.isNull = false := by
  obtain ⟨placement, resolved, -⟩ := kind?_eq_some known
  have index := HandleTable.lookup_ne_zero (HandleTable.resolve_eq_some_iff.mp resolved)
  exact beq_false_of_ne index

theorem isLive_of_kind? {handle : Handle} {kind : RecordKind}
    (known : heap.kind? handle = some kind) : heap.handles.isLive handle = true := by
  obtain ⟨placement, resolved, -⟩ := kind?_eq_some known
  exact HandleTable.isLive_iff.mpr ⟨placement, resolved⟩

/-- A record that lies apart from the others is where the arena says. -/
theorem Separated.bytes?_eq (separated : heap.Separated) {handle : Handle} {placement : Placement}
    (known : heap.handles.resolve handle = some placement) :
    heap.bytes? handle =
      some (heap.arena.memory.read placement.block.offset placement.block.len) := by
  have held := (separated.placed known).held
  simp [bytes?, known, Arena.bytes?, held]

/-- The bytes of a live record are as many as its kind allows. -/
theorem Separated.bytes?_of_kind (separated : heap.Separated) {handle : Handle} {kind : RecordKind}
    (known : heap.kind? handle = some kind) :
    ∃ bytes, heap.bytes? handle = some bytes ∧ kind.Allows bytes.length := by
  obtain ⟨placement, resolved, rfl⟩ := kind?_eq_some known
  have allowed := (separated.placed resolved).allowed
  refine ⟨_, separated.bytes?_eq resolved, ?_⟩
  rwa [Memory.length_read]

/-! ## 2. Reading -/

/-- Contents are those of a record of the kind. -/
theorem locate_eq_pure {handle : Handle} {kind : RecordKind} {bytes : List UInt8}
    (known : heap.view.contents handle kind = .ok bytes) :
    ∃ placement, heap.handles.resolve handle = some placement ∧ placement.kind = kind ∧
      heap.locate handle kind = pure placement.block := by
  obtain ⟨placement, resolved, same⟩ := kind?_eq_some (contents_eq_ok known).1
  exact ⟨placement, resolved, same, by simp [locate, resolved, same]⟩

/-- Where there are no contents, the reason is the refusal of every access. -/
theorem locate_eq_error {handle : Handle} {kind : RecordKind} {stop : Stop}
    (none : heap.view.contents handle kind = .error stop) :
    ∃ error events, stop = .refused error ∧
      heap.locate handle kind = ⟨.error (.refused error), events⟩ := by
  unfold View.contents at none
  rw [kind?_view, kind?] at none
  unfold locate
  cases resolved : heap.handles.resolve handle with
  | none =>
    rw [resolved] at none
    cases none
    exact ⟨_, _, rfl, rfl⟩
  | some placement =>
    rw [resolved] at none
    simp only [Option.map_some] at none
    split at none
    · cases none
    · next differ =>
      cases none
      simp only [if_neg differ]
      exact ⟨_, _, rfl, rfl⟩

theorem record_eq_error {handle : Handle} {kind : RecordKind} {stop : Stop}
    (none : heap.view.contents handle kind = .error stop) :
    ∃ error events, stop = .refused error ∧
      heap.record handle kind = ⟨.error (.refused error), events⟩ := by
  obtain ⟨error, events, rfl, refused⟩ := locate_eq_error none
  exact ⟨error, events, rfl, by rw [record, refused, Report.error_bind]⟩

/-- Contents are found in the block of the record. -/
theorem Separated.record_eq_pure (separated : heap.Separated) {handle : Handle} {kind : RecordKind}
    {bytes : List UInt8} (known : heap.view.contents handle kind = .ok bytes) :
    ∃ placement, heap.handles.resolve handle = some placement ∧ placement.kind = kind ∧
      heap.record handle kind = pure placement.block ∧
      bytes = heap.arena.memory.read placement.block.offset placement.block.len := by
  obtain ⟨placement, resolved, same, located⟩ := locate_eq_pure known
  refine ⟨placement, resolved, same, ?_, ?_⟩
  · rw [record, located]
    show Report.bind _ _ = _
    simp [Report.bind, Report.pure_eq, (separated.placed resolved).held]
  · rw [← (contents_eq_ok known).2, separated.bytes?_eq resolved]
    rfl

theorem Separated.allows_contents (separated : heap.Separated) {handle : Handle}
    {kind : RecordKind} {bytes : List UInt8}
    (known : heap.view.contents handle kind = .ok bytes) : kind.Allows bytes.length := by
  obtain ⟨placement, resolved, rfl, -, rfl⟩ := separated.record_eq_pure known
  rw [Memory.length_read]
  exact (separated.placed resolved).allowed

theorem slice_eq_pure {block : Block} {start len : Nat} (fits : start + len ≤ block.len) :
    heap.slice block start len =
      pure (window (heap.arena.memory.read block.offset block.len) start len) := by
  rw [slice, if_pos fits, Memory.window_read _ fits]

theorem layout_allows {layout : Layout} {len : Nat} (h : layout.kind.Allows len) :
    len = layout.size := by
  cases layout <;> exact h

section Fields

variable {layout : Layout} {scalar : Scalar}

theorem field_of_contents {handle : Handle} {bytes : List UInt8}
    (known : heap.view.contents handle layout.kind = .ok bytes) (field : Field layout scalar) :
    heap.view.field handle field = field.read bytes := by
  rw [View.field, known]

/-- A field that can be read is read without any event. -/
theorem Separated.tryGet_eq_pure (separated : heap.Separated) {handle : Handle}
    {bytes : List UInt8} (known : heap.view.contents handle layout.kind = .ok bytes)
    (field : Field layout scalar) : heap.tryGet handle field = pure (field.read bytes) := by
  obtain ⟨placement, resolved, same, found, rfl⟩ := separated.record_eq_pure known
  have fits : field.offset + scalar.width ≤ placement.block.len := by
    have allowed := (separated.placed resolved).allowed
    rw [same] at allowed
    rw [layout_allows allowed]
    exact field.fits
  rw [tryGet, found]
  show Report.bind _ _ = _
  simp only [Report.bind, Report.pure_eq, slice_eq_pure fits, Report.ok_bind]
  rfl

theorem tryGet_eq_error {handle : Handle} {stop : Stop}
    (none : heap.view.contents handle layout.kind = .error stop) (field : Field layout scalar) :
    ∃ error events, stop = .refused error ∧
      heap.tryGet handle field = ⟨.error (.refused error), events⟩ := by
  obtain ⟨error, events, rfl, refused⟩ := record_eq_error none
  exact ⟨error, events, rfl, by rw [tryGet, refused, Report.error_bind]⟩

theorem Separated.answer_tryGet (separated : heap.Separated) (handle : Handle)
    (field : Field layout scalar) :
    (heap.tryGet handle field).answer = (heap.view.contents handle layout.kind).map field.read := by
  cases known : heap.view.contents handle layout.kind with
  | ok bytes =>
    rw [separated.tryGet_eq_pure known]
    rfl
  | error stop =>
    obtain ⟨error, events, rfl, refused⟩ := tryGet_eq_error known field
    rw [refused]
    rfl

theorem Separated.get_eq_pure (separated : heap.Separated) {handle : Handle}
    {bytes : List UInt8} (known : heap.view.contents handle layout.kind = .ok bytes)
    (field : Field layout scalar) : heap.get handle field = pure (field.read bytes) := by
  rw [get, separated.tryGet_eq_pure known]
  rfl

theorem Separated.answer_get (separated : heap.Separated) (handle : Handle)
    (field : Field layout scalar) :
    (heap.get handle field).answer = .ok (heap.view.field handle field) := by
  rw [View.field]
  cases known : heap.view.contents handle layout.kind with
  | ok bytes =>
    rw [separated.get_eq_pure known]
    rfl
  | error stop =>
    obtain ⟨error, events, rfl, refused⟩ := tryGet_eq_error known field
    rw [get, refused]
    rfl

/-- The prototype of an object is always found, if only to be null. -/
theorem Separated.exists_answer_prototype (separated : heap.Separated) (object : Handle) :
    ∃ next, (heap.prototype object).answer = .ok next := by
  have first := separated.answer_get object ObjectField.shape
  rw [prototype, Report.answer_bind_of_ok first]
  split
  · exact ⟨_, rfl⟩
  · exact ⟨_, separated.answer_get _ ShapeField.proto⟩

end Fields

/-- A record is found without any event. -/
theorem record_eq_pure {handle : Handle} {kind : RecordKind} {block : Block}
    (found : (heap.record handle kind).answer = .ok block) :
    heap.record handle kind = pure block := by
  obtain ⟨placement, known, same, ofKind⟩ := record_eq_ok found
  have located : heap.locate handle kind = pure block := by simp [locate, known, ofKind, same]
  rw [record, located, Report.pure_bind, if_pos (held_of_record found)]

section Read

variable {layout : Layout} {scalar : Scalar} {handle : Handle} {field : Field layout scalar}
  {value : scalar.Carrier Handle}

/-- What is read is in a record. -/
theorem record_of_tryGet (read : (heap.tryGet handle field).answer = .ok value) :
    ∃ block, (heap.record handle layout.kind).answer = .ok block := by
  obtain ⟨block, found, -⟩ := Report.bind_eq_ok read
  exact ⟨block, found⟩

theorem kind?_of_tryGet (read : (heap.tryGet handle field).answer = .ok value) :
    heap.kind? handle = some layout.kind := by
  obtain ⟨block, found⟩ := record_of_tryGet read
  obtain ⟨placement, known, -, same⟩ := record_eq_ok found
  rw [kind?, known, ← same]
  rfl

/-- Only what is not there reads as the sentinel in its place. -/
theorem tryGet_of_get (read : (heap.get handle field).answer = .ok value)
    (stored : value ≠ scalar.sentinel) : (heap.tryGet handle field).answer = .ok value := by
  unfold get at read
  rcases report : heap.tryGet handle field with ⟨(error | fault) | found, events⟩ <;>
    rw [report] at read
  · exact absurd (Except.ok.inj read).symm stored
  · cases read
  · exact read

end Read

/-- What a null-like handle is asked for is not there. -/
theorem answer_get_null (heap : Heap) {handle : Handle} (null : handle.isNull = true)
    {layout : Layout} {scalar : Scalar} (field : Field layout scalar) :
    (heap.get handle field).answer = .ok scalar.sentinel := by
  have index : handle.index = 0 := eq_of_beq null
  have dead : heap.handles.resolve handle = none := by
    simp [HandleTable.resolve, HandleTable.lookup, index]
  have missing : heap.view.contents handle layout.kind = .error (.refused .invalidHandle) := by
    rw [View.contents, kind?_view, kind?, dead]
    rfl
  obtain ⟨error, events, -, refused⟩ := tryGet_eq_error missing field
  unfold get
  rw [refused]
  rfl

/-- A prototype can be read through the shape whether there is one or not. -/
theorem answer_prototype (heap : Heap) (object : Handle) :
    (heap.prototype object).answer = ((heap.get object ObjectField.shape) >>= fun shape =>
      heap.get shape ShapeField.proto).answer := by
  unfold prototype
  rcases heap.get object ObjectField.shape with ⟨stop | shape, events⟩
  · rfl
  · rw [Report.ok_bind, Report.ok_bind]
    cases null : shape.isNull with
    | true => exact (answer_get_null heap null ShapeField.proto).symm
    | false => rfl

/-- Counting the cells of a record. -/
theorem Separated.answer_capacity (separated : heap.Separated) (handle : Handle)
    (kind : RecordKind) (stride : Nat) :
    (Report.withDefault (do
      let block ← heap.record handle kind
      return UInt32.ofNat (block.len / stride)) 0).answer =
      .ok (heap.view.capacity handle kind stride) := by
  rw [View.capacity]
  cases known : heap.view.contents handle kind with
  | ok bytes =>
    obtain ⟨placement, -, -, found, rfl⟩ := separated.record_eq_pure known
    rw [found]
    show Except.ok (UInt32.ofNat (placement.block.len / stride)) =
      .ok (UInt32.ofNat ((Memory.read _ _ _).length / stride))
    rw [Memory.length_read]
  | error stop =>
    obtain ⟨error, events, rfl, refused⟩ := record_eq_error known
    rw [refused]
    rfl

theorem cell_place {len start stride : Nat} {index : UInt32}
    (h : Heap.cell len index stride = .ok start) :
    start = index.toNat * stride ∧ index.toNat * stride + stride ≤ len := by
  unfold Heap.cell at h
  simp only at h
  split at h
  · next inside =>
    refine ⟨(Except.ok.inj h).symm, ?_⟩
    calc index.toNat * stride + stride
      _ = (index.toNat + 1) * stride := (Nat.succ_mul ..).symm
      _ ≤ len / stride * stride := Nat.mul_le_mul_right _ inside
      _ ≤ len := Nat.div_mul_le_self ..
  · cases h

theorem cell_eq_ok {len start stride : Nat} {index : UInt32}
    (h : Heap.cell len index stride = .ok start) : start + stride ≤ len := by
  obtain ⟨rfl, fits⟩ := cell_place h
  exact fits

/-- Reading a cell of a record. -/
theorem Separated.answer_cell {α : Type} (separated : heap.Separated) (handle : Handle)
    (kind : RecordKind) (index : UInt32) (stride : Nat) (decode : List UInt8 → α) :
    (do
      let block ← heap.record handle kind
      let start ← Report.ofExcept (Heap.cell block.len index stride)
      let bytes ← heap.slice block start stride
      return decode bytes : Report Stop α).answer =
      (heap.view.cell handle kind index stride).map decode := by
  rw [View.cell]
  cases known : heap.view.contents handle kind with
  | ok bytes =>
    obtain ⟨placement, -, -, found, rfl⟩ := separated.record_eq_pure known
    rw [found]
    show (Report.bind _ _).answer = Except.map _ (Except.bind _ _)
    simp only [Report.bind, Report.pure_eq, Except.bind, Memory.length_read]
    cases start : Heap.cell placement.block.len index stride with
    | ok start =>
      have fits := cell_eq_ok start
      simp only [Report.ofExcept, Report.ok_bind, slice_eq_pure fits]
      rfl
    | error stop => rfl
  | error stop =>
    obtain ⟨error, events, rfl, refused⟩ := record_eq_error known
    rw [refused]
    rfl

theorem Separated.answer_trySlot (separated : heap.Separated) (storage : Handle) (index : UInt32) :
    (heap.trySlot storage index).answer =
      (heap.view.cell storage .propertyArray index Slot.size).map Slot.decode :=
  separated.answer_cell ..

/-! ## 3. Writing -/

/-- The view has other bytes for a handle, and only records in `writes` were touched. -/
structure Rewrites (handle : Handle) (bytes : List UInt8) (before after : Heap) : Prop where
  view : after.view = before.view.withBytes handle (some bytes)
  touches : Touches (· = handle) before after

theorem Rewrites.sound {handle : Handle} {bytes : List UInt8} {after : Heap}
    (h : Rewrites handle bytes heap after) (sound : heap.Sound) : after.Sound :=
  h.touches.sound sound

/-- An action puts other bytes in place of those of a record, or is refused. -/
structure Edits (handle : Handle) (kind : RecordKind) (edit : List UInt8 → Except Stop (List UInt8))
    (action : HeapAction Unit) : Prop where
  refused : ∀ {heap stop}, heap.Separated → heap.view.contents handle kind >>= edit = .error stop →
    ∃ events, action heap = ⟨.error stop, heap, events⟩
  done : ∀ {heap bytes}, heap.Separated → heap.view.contents handle kind >>= edit = .ok bytes →
    ∃ after, action heap = ⟨.ok (), after, []⟩ ∧ Rewrites handle bytes heap after

/-- Overwriting a part of the block of a record. -/
theorem Separated.rewrites (separated : heap.Separated) {handle : Handle} {placement : Placement}
    (known : heap.handles.resolve handle = some placement) (start : Nat) (source : List UInt8) :
    Rewrites handle
      (splice (heap.arena.memory.read placement.block.offset placement.block.len) start source)
      heap { heap with arena := heap.arena.overwrite placement.block start source } := by
  have changed := Arena.onlyIn_overwrite heap.arena placement.block start source
  have touches := separated.write known changed
  refine ⟨?_, touches⟩
  have usage : (heap.arena.overwrite placement.block start source).usage = heap.arena.usage := by
    simp only [Arena.usage, Arena.available, changed.capacity, changed.used, changed.epoch,
      changed.initialized]
  have bytes (other : Handle) :
      bytes? { heap with arena := heap.arena.overwrite placement.block start source } other =
        if other = handle then some (splice (heap.arena.memory.read placement.block.offset
          placement.block.len) start source) else heap.bytes? other := by
    split
    · next own =>
      cases own
      rw [touches.separated.bytes?_eq known, ← Memory.read_write]
      simp only [Arena.overwrite, if_pos (separated.placed known).held]
    · next differ => exact (touches.same differ).bytes
  simp only [view, View.withBytes, usage, View.mk.injEq, true_and]
  exact ⟨rfl, funext bytes⟩

/-- Finding a record and storing something in it. -/
theorem edits_of_patch {handle : Handle} {kind : RecordKind} {source : List UInt8}
    (start : Nat → Except Stop Nat)
    (fits : ∀ {len position}, kind.Allows len → start len = .ok position →
      position + source.length ≤ len) :
    Edits handle kind
      (fun bytes => (start bytes.length).map fun position => splice bytes position source) (do
        let block ← look (·.record handle kind)
        let position ← look fun _ => Report.ofExcept (start block.len)
        patch block position source) where
  refused {heap stop} separated failed := by
    cases known : heap.view.contents handle kind with
    | error stop' =>
      rw [known] at failed
      cases failed
      obtain ⟨error, events, rfl, refused⟩ := record_eq_error known
      exact ⟨events, look_bind_of_error (Heap.record · handle kind) refused⟩
    | ok bytes =>
      rw [known] at failed
      obtain ⟨placement, -, -, found, rfl⟩ := separated.record_eq_pure known
      rw [look_bind_of_pure (Heap.record · handle kind) found]
      have failed : (start _).map _ = .error stop := failed
      rw [Memory.length_read] at failed
      cases position : start placement.block.len with
      | ok position =>
        rw [position] at failed
        cases failed
      | error stop' =>
        rw [position] at failed
        cases failed
        exact ⟨[], rfl⟩
  done {heap bytes} separated edited := by
    cases known : heap.view.contents handle kind with
    | error stop =>
      rw [known] at edited
      cases edited
    | ok old =>
      rw [known] at edited
      have allowed := separated.allows_contents known
      obtain ⟨placement, resolved, -, found, rfl⟩ := separated.record_eq_pure known
      rw [Memory.length_read] at allowed
      have edited : (start _).map _ = .ok bytes := edited
      rw [Memory.length_read] at edited
      cases position : start placement.block.len with
      | error stop =>
        rw [position] at edited
        cases edited
      | ok position' =>
        rw [position] at edited
        cases edited
        have fits' := fits allowed position
        have computed : Report.ofExcept (start placement.block.len) =
            (pure position' : Report Stop Nat) := by rw [position]; rfl
        refine ⟨_, ?_, separated.rewrites resolved position' source⟩
        rw [look_bind_of_pure (Heap.record · handle kind) found,
          look_bind_of_pure (fun _ => Report.ofExcept (start placement.block.len)) computed, patch,
          if_pos fits']
        rfl

section Fields

variable {layout : Layout} {scalar : Scalar}

theorem edits_set (handle : Handle) (field : Field layout scalar)
    (value : scalar.Carrier Handle) :
    Edits handle layout.kind (fun bytes => .ok (field.write value bytes))
      (set handle field value) := by
  refine edits_of_patch (fun _ => .ok field.offset) fun {len position} allowed start => ?_
  cases start
  rw [Scalar.length_encode, layout_allows allowed]
  exact field.fits

/-- Setting a field of a record that is there. -/
theorem Sound.set_eq (sound : heap.Sound) {handle : Handle} {bytes : List UInt8}
    (known : heap.view.contents handle layout.kind = .ok bytes) (field : Field layout scalar)
    (value : scalar.Carrier Handle) :
    ∃ after, set handle field value heap = ⟨.ok (), after, []⟩ ∧ after.Sound ∧
      after.view = heap.view.withBytes handle (some (field.write value bytes)) := by
  have edited : (heap.view.contents handle layout.kind >>= fun bytes =>
      (.ok (field.write value bytes) : Except Stop (List UInt8))) = .ok (field.write value bytes) := by
    rw [known]
    rfl
  obtain ⟨after, run, rewrites⟩ := (edits_set handle field value).done sound.toSeparated edited
  exact ⟨after, run, rewrites.sound sound, rewrites.view⟩

end Fields

/-- What overwriting the bytes of a record does. -/
theorem Sound.overwrite_eq (sound : heap.Sound) (handle : Handle) (start : Nat)
    (source : List UInt8) :
    ∃ after, overwrite handle start source heap =
        ⟨.ok ((heap.bytes? handle).map List.length), after, []⟩ ∧ after.Sound ∧
      after.view = match heap.bytes? handle with
        | none => heap.view
        | some bytes => heap.view.withBytes handle (some (splice bytes start source)) := by
  cases resolved : heap.handles.resolve handle with
  | none =>
    have missing : heap.bytes? handle = none := by rw [bytes?, resolved]; rfl
    refine ⟨heap, ?_, sound, by rw [missing]⟩
    rw [missing, overwrite,
      look_bind_of_pure (fun heap : Heap => pure (heap.handles.resolve handle)) rfl, resolved]
    rfl
  | some placement =>
    have rewrites := sound.rewrites resolved start source
    refine ⟨_, ?_, rewrites.sound sound, ?_⟩
    · rw [overwrite,
        look_bind_of_pure (fun heap : Heap => pure (heap.handles.resolve handle)) rfl, resolved,
        sound.bytes?_eq resolved, Option.map_some, Memory.length_read]
      simp only [changeArena, if_pos (sound.placed resolved).held]
    · rw [sound.bytes?_eq resolved]
      exact rewrites.view

theorem edits_setSlot (storage : Handle) (index : UInt32) (slot : Slot Handle) :
    Edits storage .propertyArray
      (fun bytes => (Heap.cell bytes.length index Slot.size).map fun start =>
        splice bytes start slot.encode)
      (setSlot storage index slot) := by
  refine edits_of_patch (Heap.cell · index Slot.size) fun _ start => ?_
  rw [Slot.length_encode]
  exact cell_eq_ok start

theorem edits_setCell (values : Handle) (index : UInt32) (value : Value Handle) :
    Edits values .elementArray
      (fun bytes => (Heap.cell bytes.length index Value.size).map fun start =>
        splice bytes start value.encode)
      (setCell values index value) := by
  refine edits_of_patch (Heap.cell · index Value.size) fun _ start => ?_
  rw [Value.length_encode]
  exact cell_eq_ok start

end Heap

end HandleHeap
