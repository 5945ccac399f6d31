import HandleHeap.Proofs.Heap.Effects
import HandleHeap.Proofs.Pairing.Operations

/-!
# Twin heaps

Two heaps are twins if one looks like the other with the generations of its handles moved: the same
indices are in use for records of the same kinds, with contents that are alike, and the same roots.
Where the records lie does not matter, and neither does what of their bytes `Twin.alike` passes over.

A `Twin` says how contents are compared, along with the proofs that the accesses to records cannot
tell those apart that are alike. Hence every twin is a lawful pairing (`Twin.lawful`): the operations
that are made of these accesses end alike on twin heaps, which stay twins.
-/

namespace HandleHeap

open HandleHeap.Action Heap

/-- How two heaps are compared, with what it takes for the accesses to records not to tell apart those
that are alike. -/
structure Twin where
  /-- How far the generations of an index are moved. -/
  offset : UInt32 → UInt32
  fixed : offset 0 = 0
  /-- Whether the arenas are filled alike. -/
  lockstep : Prop
  /-- Whether the handles are the same, and the epochs as well. -/
  exact : Prop
  /-- When the bytes of two records of a kind hold the same. -/
  alike : RecordKind → List UInt8 → List UInt8 → Prop
  /-- How the configurations are compared. -/
  configs : Config → Config → Prop
  /-- How the buckets are compared. -/
  buckets : ShapeBuckets → ShapeBuckets → Prop
  readable : {layout : Layout} → {scalar : Scalar} → Field layout scalar → Prop
  writable : {layout : Layout} → {scalar : Scalar} → Field layout scalar → Prop
  unmoved : exact → ∀ handle : Handle, handle.shift offset = handle
  length : ∀ {kind a b}, alike kind a b → a.length = b.length
  zeros : ∀ {kind size}, kind ≠ .shape → kind.Allows size →
    alike kind (List.replicate size 0) (List.replicate size 0)
  newShape : ∀ (proto : Handle) propSize,
    alike .shape (Heap.newShape (proto.shift offset) propSize) (Heap.newShape proto propSize)
  fitted : ∀ {kind a b size}, kind = .propertyArray ∨ kind = .elementArray → alike kind a b →
    kind.Allows a.length → kind.Allows size →
      alike kind (HandleHeap.fitted a size) (HandleHeap.fitted b size)
  read : ∀ {layout scalar} {field : Field layout scalar} {a b}, readable field →
    alike layout.kind a b → field.read a = scalar.map (Handle.shift offset) (field.read b)
  write : ∀ {layout scalar} {field : Field layout scalar} {a b}, writable field →
    a.length = layout.size → alike layout.kind a b → ∀ value, alike layout.kind
      (field.write (scalar.map (Handle.shift offset) value) a) (field.write value b)
  slot : ∀ {a b : List UInt8} {index start}, alike .propertyArray a b →
    cell a.length index Slot.size = .ok start →
      Slot.decode (window a start Slot.size) =
        (Slot.decode (window b start Slot.size)).map (Handle.shift offset)
  setSlot : ∀ {a b : List UInt8} {index start}, alike .propertyArray a b →
    cell a.length index Slot.size = .ok start → ∀ slot : Slot Handle, alike .propertyArray
      (splice a start (slot.map (Handle.shift offset)).encode) (splice b start slot.encode)
  element : ∀ {a b : List UInt8} {index start}, alike .elementArray a b →
    cell a.length index Value.size = .ok start →
      Value.decode (window a start Value.size) =
        (Value.decode (window b start Value.size)).map (Handle.shift offset)
  setElement : ∀ {a b : List UInt8} {index start}, alike .elementArray a b →
    cell a.length index Value.size = .ok start → ∀ value : Value Handle, alike .elementArray
      (splice a start (value.map (Handle.shift offset)).encode) (splice b start value.encode)
  cleared : ∀ {a b}, buckets a b → buckets a.clear b.clear
  objects : ∀ {scalar} {field : Field .object scalar},
    (⟨_, _, field⟩ : SomeField) ∈ Field.catalogue → readable field ∧ writable field
  proto : readable ShapeField.proto
  propSize : readable ShapeField.propSize

namespace Twin

/-- The null handle stays what it is where nothing is moved. -/
theorem fixed_zero : (fun _ : UInt32 => (0 : UInt32)) 0 = 0 := rfl

theorem unmoved_zero : True → ∀ handle : Handle, handle.shift (fun _ => 0) = handle :=
  fun _ => Handle.shift_zero

variable {T : Twin}

/-- The name that a record of the second heap has on the first. -/
def rename (T : Twin) (handle : Handle) : Handle := handle.shift T.offset

theorem rename_injective (T : Twin) : Function.Injective T.rename := Handle.shift_injective _

/-- Two arenas are used alike. -/
structure SameUsage (T : Twin) (a b : ArenaUsage) : Prop where
  initialized : a.initialized = b.initialized
  capacity : a.capacity = b.capacity
  used : T.lockstep → a.used = b.used
  epoch : T.exact → a.epoch = b.epoch

/-- Two views are those of twin heaps. -/
structure Related (T : Twin) (a b : View) : Prop where
  config : T.configs a.config b.config
  labels : HandleTable.Corresponds T.offset a.labels b.labels
  same : T.exact → a.labels = b.labels
  bytes : ∀ {handle label}, b.labels.resolve handle = some label →
    T.alike label.kind ((a.bytes (T.rename handle)).getD []) ((b.bytes handle).getD [])
  roots : a.roots = b.roots.map T.rename
  buckets : T.buckets a.buckets b.buckets
  usage : T.SameUsage a.usage b.usage

/-- Doing the same on twin heaps. -/
def pairing (T : Twin) : Pairing where
  rename := T.rename
  related a b := T.Related a.view b.view
  lockstep := T.lockstep
  readable := T.readable
  writable := T.writable
  spare _ := True

/-- Doing the same on twin heaps, nothing of which asks for space. -/
def still (T : Twin) : Pairing := { T.pairing with lockstep := True }

/-- What asks for no space is never refused for lack of it. -/
theorem parallel_of_still {α β : Type} {same : α → β → Prop} {f : HeapAction α} {g : HeapAction β}
    (h : T.still.Parallel same f g) : T.pairing.Parallel same f g := by
  intro a b sound sound' related
  have agree := h a b sound sound' related
  generalize f a = x, g b = y at agree ⊢
  cases agree with
  | ok same related sound sound' => exact .ok same related sound sound'
  | error related => exact .error related
  | spent free => exact absurd trivial free

/-! ## 1. What is known of a record -/

namespace Related

variable {a b : View}

theorem resolve (h : T.Related a b) (handle : Handle) :
    a.labels.resolve (T.rename handle) = b.labels.resolve handle :=
  h.labels.resolve handle

theorem kind? (h : T.Related a b) (handle : Handle) :
    a.kind? (T.rename handle) = b.kind? handle := by
  rw [View.kind?, View.kind?, h.resolve]

theorem contents (h : T.Related a b) (handle : Handle) (kind : RecordKind) :
    Alike (T.alike kind) (a.contents (T.rename handle) kind) (b.contents handle kind) := by
  unfold View.contents
  rw [h.kind?]
  rcases known : b.labels.resolve handle with _ | ⟨found, pinned⟩
  · rw [View.kind?, known]
    exact .error _
  · rw [View.kind?, known]
    simp only [Option.map_some]
    split
    · next same =>
      cases same
      exact .ok (h.bytes known)
    · exact .error _

/-- Twins with other bytes for a record of both. -/
theorem withBytes (h : T.Related a b) {handle : Handle} {new new' : List UInt8}
    (alike : ∀ {label}, b.labels.resolve handle = some label → T.alike label.kind new new') :
    T.Related (a.withBytes (T.rename handle) (some new)) (b.withBytes handle (some new')) where
  config := h.config
  labels := h.labels
  same := h.same
  bytes {other label} known := by
    show T.alike label.kind ((if T.rename other = T.rename handle then some new else _).getD [])
      ((if other = handle then some new' else _).getD [])
    by_cases own : other = handle
    · cases own
      rw [if_pos rfl, if_pos rfl]
      exact alike known
    · rw [if_neg own, if_neg fun same => own (T.rename_injective same)]
      exact h.bytes known
  roots := h.roots
  buckets := h.buckets
  usage := h.usage

end Related


/-! ## 2. Accesses to records -/

variable {layout : Layout} {scalar : Scalar}

theorem looks_tryGet {field : Field layout scalar} (readable : T.readable field)
    (handle : Handle) : T.pairing.Looks (fun u v => u = scalar.map T.rename v)
      (·.tryGet (T.rename handle) field) (·.tryGet handle field) := by
  intro a b sound sound' related
  have contents := Related.contents related handle layout.kind
  rw [sound.answer_tryGet, sound'.answer_tryGet]
  generalize a.view.contents (T.rename handle) layout.kind = x,
    b.view.contents handle layout.kind = y at contents ⊢
  cases contents with
  | ok alike => exact .ok (T.read readable alike)
  | error stop => exact .error stop

theorem looks_locate (handle : Handle) (kind : RecordKind) :
    T.pairing.Looks (fun _ _ => True) (·.locate (T.rename handle) kind)
      (·.locate handle kind) := by
  intro a b sound sound' related
  have contents := Related.contents related handle kind
  show Alike _ (a.locate (T.rename handle) kind).answer (b.locate handle kind).answer
  rcases left : a.view.contents (T.rename handle) kind with stop | x <;>
    rcases right : b.view.contents handle kind with stop' | y <;>
    rw [left, right] at contents <;> cases contents
  · obtain ⟨error, events, rfl, refused⟩ := locate_eq_error left
    obtain ⟨error', events', same, refused'⟩ := locate_eq_error right
    cases same
    rw [refused, refused']
    exact .error _
  · obtain ⟨placement, -, -, found⟩ := locate_eq_pure left
    obtain ⟨placement', -, -, found'⟩ := locate_eq_pure right
    rw [found, found']
    exact .ok trivial

theorem looks_capacity (handle : Handle) (kind : RecordKind) (stride : Nat) :
    T.pairing.Looks Eq
      (fun heap => Report.withDefault (do
        let block ← heap.record (T.rename handle) kind
        return UInt32.ofNat (block.len / stride)) 0)
      (fun heap => Report.withDefault (do
        let block ← heap.record handle kind
        return UInt32.ofNat (block.len / stride)) 0) := by
  intro a b sound sound' related
  have contents := Related.contents related handle kind
  rw [sound.answer_capacity, sound'.answer_capacity, View.capacity, View.capacity]
  generalize a.view.contents (T.rename handle) kind = x,
    b.view.contents handle kind = y at contents ⊢
  cases contents with
  | ok alike => exact .ok (by simp only [T.length alike])
  | error stop => exact .ok rfl

/-- Reading a cell of a record. -/
theorem looks_cell {α : Type} {same : α → α → Prop} (handle : Handle) (kind : RecordKind)
    (index : UInt32) (stride : Nat) (decode : List UInt8 → α)
    (reads : ∀ {x y start}, T.alike kind x y → cell x.length index stride = .ok start →
      same (decode (window x start stride)) (decode (window y start stride))) :
    T.pairing.Looks same
      (fun heap => do
        let block ← heap.record (T.rename handle) kind
        let start ← Report.ofExcept (cell block.len index stride)
        let bytes ← heap.slice block start stride
        return decode bytes)
      (fun heap => do
        let block ← heap.record handle kind
        let start ← Report.ofExcept (cell block.len index stride)
        let bytes ← heap.slice block start stride
        return decode bytes) := by
  intro a b sound sound' related
  have contents := Related.contents related handle kind
  rw [sound.answer_cell, sound'.answer_cell, View.cell, View.cell]
  generalize a.view.contents (T.rename handle) kind = x,
    b.view.contents handle kind = y at contents ⊢
  cases contents with
  | error stop => exact .error stop
  | @ok x y alike =>
    show Alike same (Except.map _ (Except.bind _ _)) (Except.map _ (Except.bind _ _))
    simp only [Except.bind, ← T.length alike]
    cases place : cell x.length index stride with
    | error stop => exact .error stop
    | ok start => exact .ok (reads alike place)

/-- Editing a record of both. -/
theorem parallel_edits {handle : Handle} {kind : RecordKind}
    {edit edit' : List UInt8 → Except Stop (List UInt8)} {action action' : HeapAction Unit}
    (left : Edits (T.rename handle) kind edit action) (right : Edits handle kind edit' action')
    (alike : ∀ {x y}, T.alike kind x y → kind.Allows x.length →
      Alike (T.alike kind) (edit x) (edit' y)) :
    T.still.Parallel Eq action action' := by
  intro a b sound sound' related
  have related : T.Related a.view b.view := related
  have contents := related.contents handle kind
  have both : Alike (T.alike kind) (a.view.contents (T.rename handle) kind >>= edit)
      (b.view.contents handle kind >>= edit') := by
    cases known : a.view.contents (T.rename handle) kind with
    | error stop =>
      rw [known] at contents
      generalize b.view.contents handle kind = y at contents ⊢
      cases contents
      exact .error stop
    | ok x =>
      have allowed := sound.allows_contents known
      rw [known] at contents
      generalize b.view.contents handle kind = y at contents ⊢
      cases contents with
      | ok same => exact alike same allowed
  rcases edited : a.view.contents (T.rename handle) kind >>= edit with stop | new <;>
    rcases edited' : b.view.contents handle kind >>= edit' with stop' | new' <;>
    rw [edited, edited'] at both <;> cases both
  · obtain ⟨events, run⟩ := left.refused sound.toSeparated edited
    obtain ⟨events', run'⟩ := right.refused sound'.toSeparated edited'
    rw [run, run']
    exact .error related
  · next same =>
    obtain ⟨after, run, rewrites⟩ := left.done sound.toSeparated edited
    obtain ⟨after', run', rewrites'⟩ := right.done sound'.toSeparated edited'
    rw [run, run']
    refine .ok rfl ?_ (rewrites.sound sound) (rewrites'.sound sound')
    show T.Related after.view after'.view
    rw [rewrites.view, rewrites'.view]
    refine related.withBytes fun {label} resolved => ?_
    have kind' : b.view.kind? handle = some label.kind := congrArg (Option.map Label.kind) resolved
    cases found : b.view.contents handle kind with
    | error stop =>
      rw [found] at edited'
      cases edited'
    | ok y =>
      have own := (contents_eq_ok found).1
      rw [← kind?_view, kind'] at own
      cases own
      exact same

theorem parallel_set {field : Field layout scalar} (writable : T.writable field)
    (handle : Handle) (value : scalar.Carrier Handle) :
    T.still.Parallel Eq (Heap.set (T.rename handle) field (scalar.map T.rename value))
      (Heap.set handle field value) :=
  parallel_edits (edits_set ..) (edits_set ..) fun alike allowed =>
    .ok (T.write writable (layout_allows allowed) alike value)

theorem parallel_setSlot (storage : Handle) (index : UInt32) (slot : Slot Handle) :
    T.still.Parallel Eq (Heap.setSlot (T.rename storage) index (slot.map T.rename))
      (Heap.setSlot storage index slot) := by
  refine parallel_edits (edits_setSlot ..) (edits_setSlot ..) fun {x y} alike _ => ?_
  rw [← T.length alike]
  cases place : cell x.length index Slot.size with
  | error stop => exact .error stop
  | ok start => exact .ok (T.setSlot alike place slot)

theorem parallel_setCell (values : Handle) (index : UInt32) (value : Value Handle) :
    T.still.Parallel Eq (Heap.setCell (T.rename values) index (value.map T.rename))
      (Heap.setCell values index value) := by
  refine parallel_edits (edits_setCell ..) (edits_setCell ..) fun {x y} alike _ => ?_
  rw [← T.length alike]
  cases place : cell x.length index Value.size with
  | error stop => exact .error stop
  | ok start => exact .ok (T.setElement alike place value)

theorem Related.length {a b : Heap} (related : T.Related a.view b.view) (sound : a.Sound)
    (sound' : b.Sound) (handle : Handle) :
    (a.bytes? (T.rename handle)).map List.length = (b.bytes? handle).map List.length := by
  have labels := related.resolve handle
  have known : a.labels.resolve (T.rename handle) = _ := a.resolve_labels _
  have known' : b.labels.resolve handle = _ := b.resolve_labels _
  have labels : a.labels.resolve (T.rename handle) = b.labels.resolve handle := labels
  cases right : b.handles.resolve handle with
  | none =>
    rw [known, known', right] at labels
    rw [bytes?, bytes?, right, Option.map_eq_none_iff.mp labels]
    rfl
  | some placement =>
    rw [right] at known'
    have alike : T.alike placement.kind ((a.bytes? (T.rename handle)).getD [])
      ((b.bytes? handle).getD []) := related.bytes known'
    rw [known, known'] at labels
    obtain ⟨found, left, -⟩ := Option.map_eq_some_iff.mp labels
    rw [sound.bytes?_eq left, sound'.bytes?_eq right] at alike ⊢
    exact congrArg some (T.length alike)

/-- Overwriting the bytes of a record of both, where that leaves bytes alike that were so. -/
theorem parallel_overwrite
    (spliced : ∀ {kind a b}, T.alike kind a b → ∀ start source,
      T.alike kind (splice a start source) (splice b start source))
    (handle : Handle) (start : Nat) (source : List UInt8) :
    T.still.Parallel Eq (Heap.overwrite (T.rename handle) start source)
      (Heap.overwrite handle start source) := by
  intro a b sound sound' related
  have related : T.Related a.view b.view := related
  have lengths := related.length sound sound' handle
  obtain ⟨after, run, settled, view⟩ := sound.overwrite_eq (T.rename handle) start source
  obtain ⟨after', run', settled', view'⟩ := sound'.overwrite_eq handle start source
  rw [run, run']
  refine .ok lengths ?_ settled settled'
  show T.Related after.view after'.view
  rw [view, view']
  cases stored : a.bytes? (T.rename handle) with
  | none =>
    rw [stored] at lengths
    rw [Option.map_eq_none_iff.mp lengths.symm]
    exact related
  | some bytes =>
    rw [stored] at lengths
    obtain ⟨bytes', stored', -⟩ := Option.map_eq_some_iff.mp lengths.symm
    rw [stored']
    refine related.withBytes fun {label} known => spliced ?_ start source
    have alike : T.alike label.kind ((a.bytes? (T.rename handle)).getD [])
      ((b.bytes? handle).getD []) := related.bytes known
    rwa [stored, stored'] at alike

/-! ## 3. Requests -/

/-- What asking two arenas that are used alike for as many bytes comes to. -/
inductive Asked (T : Twin) : Except AllocError Block → Except AllocError Block → Prop
  | given {block block' : Block} : (T.lockstep → block.offset = block'.offset) →
      Asked T (.ok block) (.ok block')
  | refused (cause : AllocError) : Asked T (.error cause) (.error cause)
  | spent {x y : Except AllocError Block} : ¬ T.lockstep →
      (∃ requested offset capacity, x = .error (.exhausted requested offset capacity)) ∨
        (∃ requested offset capacity, y = .error (.exhausted requested offset capacity)) →
      Asked T x y

/-- Only where the offsets may differ is a request served on one side and not on the other. -/
theorem SameUsage.allocate {a b : Arena} (h : T.SameUsage a.usage b.usage) (size : Nat) :
    Asked T (Arena.allocate size a).answer (Arena.allocate size b).answer ∧
      T.SameUsage (Arena.allocate size a).state.usage (Arena.allocate size b).state.usage := by
  have initialized : a.initialized = b.initialized := h.initialized
  have capacity : a.capacity = b.capacity := h.capacity
  have asked : a.asked size = b.asked size := Arena.asked_congr capacity initialized size
  constructor
  · rw [Arena.answer_allocate, Arena.answer_allocate, asked, initialized, capacity]
    split
    · exact .refused _
    split
    · exact .refused _
    by_cases lockstep : T.lockstep
    · have used : a.used = b.used := h.used lockstep
      rw [used]
      split
      · exact .given fun _ => rfl
      · exact .refused _
    · split
      · split
        · exact .given fun free => absurd free lockstep
        · exact .spent lockstep (.inr ⟨_, _, _, rfl⟩)
      · exact .spent lockstep (.inl ⟨_, _, _, rfl⟩)
  · have used (lockstep : T.lockstep) :
        (Arena.allocate size a).state.used = (Arena.allocate size b).state.used := by
      rw [Arena.used_allocate, Arena.used_allocate, asked, show a.used = b.used from h.used lockstep]
    obtain ⟨_, moved⟩ := Arena.exists_state_allocate a size
    obtain ⟨_, moved'⟩ := Arena.exists_state_allocate b size
    rw [moved, moved'] at used ⊢
    exact ⟨initialized, capacity, used, h.epoch⟩

/-! ## 4. Records made, moved and ended -/

theorem Related.asked {a b : Heap} (h : T.Related a.view b.view) (size : Nat) :
    T.Related (a.asked size) (b.asked size) :=
  { h with usage := (SameUsage.allocate h.usage size).2 }

theorem parallel_request (size : Nat) :
    T.pairing.Parallel (fun u v => T.lockstep → u.offset = v.offset)
      (onArena (fun _ e => e) (Arena.allocate size))
      (onArena (fun _ e => e) (Arena.allocate size)) := by
  intro a b sound sound' related
  have related : T.Related a.view b.view := related
  have asked := related.asked size
  rw [← sound.view_asked, ← sound'.view_asked] at asked
  have answers := (SameUsage.allocate related.usage size).1
  rcases run : Arena.allocate size a.arena with ⟨answer, arena, events⟩
  rcases run' : Arena.allocate size b.arena with ⟨answer', arena', events'⟩
  rw [run, run'] at asked answers
  rw [onArena_apply run, onArena_apply run']
  cases answers with
  | given same =>
    have kept := (sound.given (congrArg Outcome.answer run) (congrArg Outcome.state run)).1
    have kept' := (sound'.given (congrArg Outcome.answer run') (congrArg Outcome.state run')).1
    exact .ok same asked kept kept'
  | refused cause => exact .error asked
  | spent free which =>
    refine .spent free (which.imp ?_ ?_) <;>
      · rintro ⟨requested, offset, capacity, rfl⟩
        exact ⟨_, rfl, requested, offset, capacity, rfl⟩

namespace Related

variable {a b : View} (h : T.Related a b)
include h

/-- A handle is issued on both sides, for records that are alike. -/
theorem register {label : Label} {handle handle' : Handle} {labels labels' : HandleTable Label}
    {events events' : List Event} {bytes bytes' : List UInt8}
    (run : HandleTable.register label a.labels = ⟨.ok handle, labels, events⟩)
    (run' : HandleTable.register label b.labels = ⟨.ok handle', labels', events'⟩)
    (alike : T.alike label.kind bytes bytes') :
    handle = T.rename handle' ∧
      T.Related ({ a with labels }.withBytes handle (some bytes))
        ({ b with labels := labels' }.withBytes handle' (some bytes')) := by
  obtain ⟨answer, corresponds⟩ := h.labels.register label
  rw [run, run'] at answer corresponds
  obtain rfl : handle = T.rename handle' := Except.ok.inj answer
  obtain ⟨-, resolve⟩ := HandleTable.resolve_register run'
  refine ⟨rfl, { h with labels := corresponds, same := fun exact => ?_, bytes := ?_ }⟩
  · have tables := congrArg (HandleTable.register label) (h.same exact)
    rw [run, run'] at tables
    exact congrArg Outcome.state tables
  · intro other found known
    show T.alike found.kind
      ((if T.rename other = T.rename handle' then some bytes else a.bytes (T.rename other)).getD [])
      ((if other = handle' then some bytes' else b.bytes other).getD [])
    have known : labels'.resolve other = some found := known
    rw [resolve] at known
    by_cases own : other = handle'
    · rw [if_pos own] at known
      cases known
      rw [own, if_pos rfl, if_pos rfl]
      exact alike
    · rw [if_neg own] at known
      rw [if_neg own, if_neg fun same => own (T.rename_injective same)]
      exact h.bytes known

/-- No handle is issued on either side. -/
theorem register_error {label : Label} {stop stop' : Stop} {labels labels' : HandleTable Label}
    {events events' : List Event}
    (run : HandleTable.register label a.labels = ⟨.error stop, labels, events⟩)
    (run' : HandleTable.register label b.labels = ⟨.error stop', labels', events'⟩) :
    stop = stop' ∧ T.Related { a with labels } { b with labels := labels' } := by
  obtain ⟨answer, corresponds⟩ := h.labels.register label
  rw [run, run'] at answer corresponds
  refine ⟨Except.error.inj answer,
    { h with labels := corresponds, same := fun exact => ?_, bytes := fun known => ?_ }⟩
  · have tables := congrArg (HandleTable.register label) (h.same exact)
    rw [run, run'] at tables
    exact congrArg Outcome.state tables
  · exact h.bytes ((HandleTable.resolve_register_error run' _).symm.trans known)

/-- The label of a record is changed on both sides, but not its kind. -/
theorem relabel {handle : Handle} {old label : Label} (known : b.labels.resolve handle = some old)
    (kind : label.kind = old.kind) :
    T.Related { a with
        labels := (HandleTable.relocate (T.rename handle) label a.labels).state }
      { b with labels := (HandleTable.relocate handle label b.labels).state } := by
  have resolve := HandleTable.resolve_relocate (HandleTable.isLive_iff.mpr ⟨old, known⟩) label
  refine { h with
    labels := (h.labels.relocate handle label).2, same := fun exact => ?_, bytes := ?_ }
  · show (HandleTable.relocate (T.rename handle) label a.labels).state = _
    rw [h.same exact, rename, T.unmoved exact]
  · intro other found known'
    have known' : (HandleTable.relocate handle label b.labels).state.resolve other = some found :=
      known'
    rw [resolve] at known'
    split at known'
    · next own =>
      cases known'
      rw [kind, own]
      exact h.bytes known
    · exact h.bytes known'

/-- A handle is ended on both sides. -/
theorem ended (handle : Handle) :
    T.Related ({ a with
        labels := (HandleTable.invalidate (T.rename handle) a.labels).state }.withBytes
          (T.rename handle) none)
      ({ b with labels := (HandleTable.invalidate handle b.labels).state }.withBytes
        handle none) := by
  have resolve := HandleTable.resolve_invalidate handle b.labels
  refine { h with labels := (h.labels.invalidate handle).2, same := fun exact => ?_, bytes := ?_ }
  · show (HandleTable.invalidate (T.rename handle) a.labels).state = _
    rw [h.same exact, rename, T.unmoved exact]
    rfl
  · intro other found known
    have known : (HandleTable.invalidate handle b.labels).state.resolve other = some found := known
    rw [resolve] at known
    split at known
    · cases known
    · next own =>
      show T.alike found.kind
        ((if T.rename other = T.rename handle then none else a.bytes (T.rename other)).getD [])
        ((if other = handle then none else b.bytes other).getD [])
      rw [if_neg own, if_neg fun same => own (T.rename_injective same)]
      exact h.bytes known

end Related

section Moves

variable {a b a' b' : Heap}

theorem agree_made (related : T.Related a.view b.view) (sound : a.Sound) {kind : RecordKind}
    {size : Nat} {bytes bytes' : List UInt8} {answer answer' : Except Stop Handle}
    (alike : 0 < size → T.alike kind bytes bytes') (left : Made kind size bytes a a' answer)
    (right : Made kind size bytes' b b' answer') (events events' : List Event) :
    T.pairing.Agree (fun u v => u = T.rename v) ⟨answer, a', events⟩ ⟨answer', b', events'⟩ := by
  have asked := related.asked size
  have issued : (HandleTable.register ⟨kind, false⟩ a.labels).answer =
      (HandleTable.register ⟨kind, false⟩ b.labels).answer.map _ :=
    (related.labels.register ⟨kind, false⟩).1
  have answers := (SameUsage.allocate related.usage size).1
  generalize request : (Arena.allocate size a.arena).answer = x,
    request' : (Arena.allocate size b.arena).answer = y at answers
  cases answers with
  | spent free which =>
    refine .spent free (which.imp ?_ ?_)
    · rintro ⟨requested, offset, capacity, rfl⟩
      obtain ⟨rfl, -⟩ := left.of_refused request
      exact ⟨_, rfl, _, _, _, rfl⟩
    · rintro ⟨requested, offset, capacity, rfl⟩
      obtain ⟨rfl, -⟩ := right.of_refused request'
      exact ⟨_, rfl, _, _, _, rfl⟩
  | refused cause =>
    obtain ⟨rfl, view⟩ := left.of_refused request
    obtain ⟨rfl, view'⟩ := right.of_refused request'
    refine .error ?_
    show T.Related a'.view b'.view
    rw [view, view']
    exact asked
  | given same =>
    rcases left.of_given request with
        ⟨stop, labels, run, rfl, view⟩ | ⟨handle, labels, run, rfl, view, settled⟩ <;>
      rcases right.of_given request' with
        ⟨stop', labels', run', rfl, view'⟩ | ⟨handle', labels', run', rfl, view', settled'⟩ <;>
      rw [run, run'] at issued
    · obtain ⟨rfl, related'⟩ := asked.register_error run run'
      refine .error ?_
      show T.Related a'.view b'.view
      rw [view, view']
      exact related'
    · cases issued
    · cases issued
    · obtain ⟨rfl, related'⟩ := asked.register run run' (alike (sound.given request rfl).2.2.2.1)
      refine .ok rfl ?_ settled settled'
      show T.Related a'.view b'.view
      rw [view, view']
      exact related'

theorem agree_grown (related : T.Related a.view b.view) {handle : Handle} {kind : RecordKind}
    {size : Nat} {answer answer' : Except Stop Unit} (sound : a.Sound)
    (array : kind = .propertyArray ∨ kind = .elementArray) (allowed : kind.Allows size)
    (left : Grown (T.rename handle) kind size a a' answer)
    (right : Grown handle kind size b b' answer') (events events' : List Event) :
    T.pairing.Agree Eq ⟨answer, a', events⟩ ⟨answer', b', events'⟩ := by
  have asked := related.asked size
  have answers := (SameUsage.allocate related.usage size).1
  have contents := related.contents handle kind
  generalize known : a.view.contents (T.rename handle) kind = x,
    known' : b.view.contents handle kind = y at contents
  generalize request : (Arena.allocate size a.arena).answer = u,
    request' : (Arena.allocate size b.arena).answer = v at answers
  cases contents with
  | error =>
    obtain ⟨rfl, rfl⟩ := left.of_missing known
    obtain ⟨rfl, rfl⟩ := right.of_missing known'
    exact .error related
  | ok alike =>
    cases answers with
    | given same =>
      obtain ⟨rfl, view, settled⟩ := left.of_given known request
      obtain ⟨rfl, view', settled'⟩ := right.of_given known' request'
      refine .ok rfl ?_ settled settled'
      show T.Related a'.view b'.view
      rw [view, view']
      refine asked.withBytes fun {label} resolved => ?_
      have kind' : b.view.kind? handle = some label.kind :=
        congrArg (Option.map Label.kind) resolved
      rw [kind?_view, (contents_eq_ok known').1] at kind'
      cases kind'
      exact T.fitted array alike (sound.allows_contents known) allowed
    | refused cause =>
      obtain ⟨rfl, view⟩ := left.of_refused known request
      obtain ⟨rfl, view'⟩ := right.of_refused known' request'
      rw [← view, ← view'] at asked
      -- Where the offset is, is told.
      by_cases lockstep : T.lockstep
      · have used : a'.arena.used = b'.arena.used := asked.usage.used lockstep
        have capacity : a'.arena.capacity = b'.arena.capacity := asked.usage.capacity
        rw [used, capacity]
        exact .error asked
      · exact .spent lockstep (.inl ⟨_, rfl, _, _, _, rfl⟩)
    | spent free which =>
      refine .spent free (which.imp ?_ ?_)
      · rintro ⟨requested, offset, capacity, rfl⟩
        obtain ⟨rfl, -⟩ := left.of_refused known request
        exact ⟨_, rfl, _, _, _, rfl⟩
      · rintro ⟨requested, offset, capacity, rfl⟩
        obtain ⟨rfl, -⟩ := right.of_refused known' request'
        exact ⟨_, rfl, _, _, _, rfl⟩

theorem agree_relocated (related : T.Related a.view b.view) {handle : Handle}
    {answer answer' : Except Stop Unit} (left : Relocated (T.rename handle) a a' answer)
    (right : Relocated handle b b' answer') (events events' : List Event) :
    T.pairing.Agree Eq ⟨answer, a', events⟩ ⟨answer', b', events'⟩ := by
  have resolve : a.labels.resolve (T.rename handle) = b.labels.resolve handle :=
    related.resolve handle
  cases known : b.labels.resolve handle with
  | none =>
    obtain ⟨rfl, rfl⟩ := left.of_missing (resolve.trans known)
    obtain ⟨rfl, rfl⟩ := right.of_missing known
    exact .error related
  | some label =>
    obtain ⟨kind, _ | _⟩ := label
    · obtain ⟨x, stored, view, rfl, settled⟩ := left.of_unpinned (resolve.trans known)
      obtain ⟨y, stored', view', rfl, settled'⟩ := right.of_unpinned known
      have alike : T.alike kind ((a.bytes? (T.rename handle)).getD [])
        ((b.bytes? handle).getD []) := related.bytes known
      rw [stored, stored'] at alike
      have length : x.length = y.length := T.length alike
      rw [length] at view settled ⊢
      have asked := related.asked y.length
      rw [← view, ← view'] at asked
      have answers := (SameUsage.allocate related.usage y.length).1
      generalize (Arena.allocate y.length a.arena).answer = given,
        (Arena.allocate y.length b.arena).answer = given' at answers settled settled'
      cases answers with
      | given => exact .ok rfl asked (settled rfl) (settled' rfl)
      | refused cause => exact .error asked
      | spent free which =>
        refine .spent free (which.imp ?_ ?_) <;>
          · rintro ⟨requested, offset, capacity, rfl⟩
            exact ⟨_, rfl, requested, offset, capacity, rfl⟩
    · obtain ⟨rfl, rfl⟩ := left.of_pinned (resolve.trans known)
      obtain ⟨rfl, rfl⟩ := right.of_pinned known
      exact .error related

theorem agree_repinned (related : T.Related a.view b.view) {handle : Handle} {pinned : Bool}
    {answer answer' : Except Stop Unit} (left : Repinned (T.rename handle) pinned a a' answer)
    (right : Repinned handle pinned b b' answer') (settled : answer = .ok () → a'.Sound)
    (settled' : answer' = .ok () → b'.Sound) (events events' : List Event) :
    T.pairing.Agree Eq ⟨answer, a', events⟩ ⟨answer', b', events'⟩ := by
  have resolve : a.labels.resolve (T.rename handle) = b.labels.resolve handle :=
    related.resolve handle
  cases left with
  | missing known same =>
    rw [known] at resolve
    cases right with
    | missing known' same' =>
      rw [same, same']
      exact .error related
    | repinned known' => cases resolve.trans known'
  | repinned known view =>
    rw [known] at resolve
    cases right with
    | missing known' => cases resolve.trans known'
    | repinned known' view' =>
      cases resolve.trans known'
      refine .ok rfl ?_ (settled rfl) (settled' rfl)
      show T.Related a'.view b'.view
      rw [view, view']
      exact related.relabel known' rfl

end Moves

/-! ## 5. Roots -/

theorem parallel_roots {α : Type} {action action' : Action Stop RootSet α}
    (named : ∀ roots, action (roots.map T.rename) = ⟨(action' roots).answer,
      (action' roots).state.map T.rename, (action' roots).events⟩) :
    T.pairing.Parallel Eq (onRoots action) (onRoots action') := by
  intro a b sound sound' related
  have related : T.Related a.view b.view := related
  have touches : (onRoots action).Keeps (Touching fun _ => False) := keeps_onRoots action
  have touches' : (onRoots action').Keeps (Touching fun _ => False) := keeps_onRoots action'
  have settled {x : α} := (sound.leaves touches).sound (a := x)
  have settled' {x : α} := (sound'.leaves touches').sound (a := x)
  have run := named b.roots
  rw [← show a.roots = b.roots.map T.rename from related.roots] at run
  have run : onRoots action a = ⟨(action' b.roots).answer,
      { a with roots := (action' b.roots).state.map T.rename }, (action' b.roots).events⟩ := by
    simp only [onRoots, run]
  have run' : onRoots action' b = ⟨(action' b.roots).answer,
      { b with roots := (action' b.roots).state }, (action' b.roots).events⟩ := rfl
  have kept : T.Related (view { a with roots := (action' b.roots).state.map T.rename })
      (view { b with roots := (action' b.roots).state }) := { related with roots := rfl }
  rw [run] at settled ⊢
  rw [run'] at settled' ⊢
  cases answer : (action' b.roots).answer with
  | ok x => exact .ok rfl kept (settled answer) (settled' answer)
  | error stop => exact .error kept

/-- Records that stand for each other are ended together. -/
theorem related_end {a b : Heap} (h : T.Related a.view b.view) (handle : Handle) :
    T.Related (onTable (HandleTable.invalidate (T.rename handle)) a).state.view
      (onTable (HandleTable.invalidate handle) b).state.view := by
  rw [(end_labels a _).2, (end_labels b _).2]
  exact h.ended handle

/-- A handle is ended on both sides. -/
theorem parallel_end (handle : Handle) :
    T.still.Parallel Eq (onTable (HandleTable.invalidate (T.rename handle)))
      (onTable (HandleTable.invalidate handle)) := by
  intro a b sound sound' related
  have related : T.Related a.view b.view := related
  have settled := (((touches_end (T.rename handle)).step a sound.toSeparated).sound sound)
  have settled' := ((touches_end handle).step b sound'.toSeparated).sound sound'
  have kept := related_end related handle
  have answer : (onTable (HandleTable.invalidate (T.rename handle)) a).answer =
      (onTable (HandleTable.invalidate handle) b).answer := by
    rw [(end_labels a _).1, (end_labels b _).1]
    exact (related.labels.invalidate handle).1
  cases ended : (onTable (HandleTable.invalidate handle) b).answer with
  | ok live => exact .of_ok (answer.trans ended) ended rfl kept settled settled'
  | error stop => exact .of_error (answer.trans ended) ended kept

theorem Related.isLive {a b : Heap} (h : T.Related a.view b.view) (handle : Handle) :
    a.isLive (T.rename handle) = b.isLive handle := by
  rw [← isLive_labels, ← isLive_labels]
  exact HandleTable.Aligned.isLive h.labels.toAligned handle

theorem Related.isPinned {a b : Heap} (h : T.Related a.view b.view) (handle : Handle) :
    a.isPinned (T.rename handle) = b.isPinned handle := by
  have resolve : a.labels.resolve (T.rename handle) = b.labels.resolve handle := h.resolve handle
  rw [isPinned_labels, isPinned_labels, resolve]

theorem lawful (T : Twin) : T.pairing.Lawful where
  null := Handle.shift_null T.fixed
  isNull _ := rfl
  accounted a b related := by
    have related : T.Related a.view b.view := related
    exact ⟨(HandleTable.accounted_map ..).mp related.labels.accounted,
      (HandleTable.accounted_map ..).mp related.labels.accounted'⟩
  objects := T.objects
  proto := T.proto
  propSize := T.propSize
  isLive handle _ _ _ _ related := .ok (Related.isLive related handle)
  kind handle a b _ _ related := .ok <| by
    have kind := Related.kind? related handle
    rwa [kind?_view, kind?_view] at kind
  isPinned handle _ _ _ _ related := .ok (Related.isPinned related handle)
  locate := looks_locate
  tryGet readable := looks_tryGet readable
  set writable handle value := parallel_of_still (parallel_set writable handle value)
  capacity := looks_capacity
  trySlot storage index := looks_cell _ _ _ _ Slot.decode T.slot
  setSlot storage index slot := parallel_of_still (parallel_setSlot storage index slot)
  cell values index := looks_cell _ _ _ _ Value.decode T.element
  setCell values index value := parallel_of_still (parallel_setCell values index value)
  request := parallel_request
  allocRecord {kind size} other allowed :=
    Pairing.Parallel.mono (M := T.pairing) (fun a b sound sound' related =>
      agree_made related sound (fun pos => T.zeros other (allowed pos)) (sound.allocRecord allowed)
        (sound'.allocRecord allowed) _ _) fun same => ⟨same, trivial⟩
  allocShape proto propSize a b sound sound' related :=
    agree_made related sound (fun _ => T.newShape proto propSize) (Sound.allocShape sound _ _)
      (Sound.allocShape sound' _ _) _ _
  growRecord array allowed handle a b sound sound' related :=
    agree_grown related sound array allowed (Sound.growRecord sound _ allowed)
      (Sound.growRecord sound' _ allowed) _ _
  relocate handle a b sound sound' related :=
    agree_relocated related (Sound.relocate sound _) (Sound.relocate sound' _) _ _
  setPinned handle pinned a b sound sound' related :=
    agree_repinned related (Sound.setPinned sound _ pinned) (Sound.setPinned sound' _ pinned)
      (sound.leaves (touches_setPinned _ pinned)).sound
      (sound'.leaves (touches_setPinned _ pinned)).sound _ _
  ends {handle} _ _ _ related := related_end related handle
  getRoot id a b _ _ related := .ok <| by
    show a.roots.get? id = (b.roots.get? id).map T.rename
    rw [show a.roots = b.roots.map T.rename from Related.roots related, RootSet.get?_map]
  roots a b _ _ related := .ok <| by
    show a.roots.toList = b.roots.toList.map (Prod.map id T.rename)
    rw [show a.roots = b.roots.map T.rename from Related.roots related, RootSet.toList_map]
  rootAdded handle := parallel_roots fun roots => roots.map_add T.rename handle
  rootSet id handle := parallel_roots fun roots => roots.map_set T.rename id handle
  rootRemoved id := parallel_roots fun roots => roots.map_remove T.rename id

/-- What is answered on the one side is answered on the other. -/
theorem exists_answers {x y : Except Stop Handle} (alike : Alike (fun u v => u = T.rename v) x y)
    (found : ∃ v, y = .ok v) : ∃ v, x = .ok (T.rename v) ∧ y = .ok v := by
  obtain ⟨v, rfl⟩ := found
  cases alike with
  | ok same => exact ⟨v, congrArg Except.ok same, rfl⟩

section Objects

variable {a b : Heap} (sound : a.Sound) (sound' : b.Sound) (related : T.Related a.view b.view)
include sound sound' related

theorem exists_shape (object : Handle) :
    ∃ shape, (a.get (T.rename object) ObjectField.shape).answer = .ok (T.rename shape) ∧
      (b.get object ObjectField.shape).answer = .ok shape := by
  have looks := T.lawful.get_object ObjectField.shape object
  exact exists_answers (looks a b sound sound' related)
    ⟨_, sound'.answer_get object ObjectField.shape⟩

theorem exists_prototype (object : Handle) :
    ∃ next, (a.prototype (T.rename object)).answer = .ok (T.rename next) ∧
      (b.prototype object).answer = .ok next :=
  exists_answers (T.lawful.prototype object a b sound sound' related)
    (sound'.exists_answer_prototype object)

end Objects

/-! ## 6. Statistics -/

theorem countP_labels (heap : Heap) (p : Label → Bool) :
    heap.labels.toList.countP (fun entry => p entry.2) =
      heap.handles.toList.countP (fun entry => p entry.2.label) := by
  refine (HandleTable.countP_toList heap.labels p).trans
    (Eq.trans ?_ (HandleTable.countP_toList heap.handles fun placement => p placement.label).symm)
  show (heap.handles.entries.map (TableEntry.map Placement.label)).toList.countP _ = _
  rw [Array.toList_map, List.countP_map]
  refine List.countP_congr fun entry _ => ?_
  obtain ⟨generation, _ | placement⟩ := entry <;> exact Iff.rfl

/-- Twin heaps have as many records of each kind and as many roots. -/
theorem Related.stats {a b : Heap} (h : T.Related a.view b.view) :
    a.stats = { b.stats with
      arenaUsed := a.arena.used
      arenaAvailable := a.arena.available
      arenaEpoch := a.arena.epoch
      freeHandles := a.handles.free.length
      handleCapacity := a.handles.capacity
      hashedShapes := a.buckets.hashed } := by
  have count (p : Label → Bool) : a.handles.toList.countP (fun entry => p entry.2.label) =
      b.handles.toList.countP (fun entry => p entry.2.label) := by
    rw [← countP_labels, ← countP_labels]
    exact h.labels.countP p
  have kinds (kind : RecordKind) : a.countKind kind = b.countKind kind :=
    count fun label => label.kind = kind
  have live : a.handles.live = b.handles.live := h.labels.live
  have named : a.roots = b.roots.map T.rename := h.roots
  have roots : a.roots.count = b.roots.count := by rw [named]; rfl
  have capacity : a.arena.capacity = b.arena.capacity := h.usage.capacity
  simp only [Heap.stats, kinds, live, roots, capacity]
  congr 1
  exact count Label.pinned

/-! ## 7. The end of a session -/

theorem labels_endAll (heap : Heap) (arena : Arena) :
    (view { heap.endAll with arena }).labels = heap.labels.invalidateAll :=
  HandleTable.map_invalidateAll ..

/-- Twin heaps whose records are all ended, with arenas that are used alike. -/
theorem Related.endAll {a b : Heap} (h : T.Related a.view b.view) {arena arena' : Arena}
    (usage : T.SameUsage arena.usage arena'.usage) :
    T.Related (view { a.endAll with arena }) (view { b.endAll with arena := arena' }) where
  config := h.config
  labels := by
    rw [labels_endAll, labels_endAll]
    exact h.labels.invalidateAll
  same exact := by
    rw [labels_endAll, labels_endAll]
    exact congrArg HandleTable.invalidateAll (h.same exact)
  bytes {handle label} known := by
    rw [labels_endAll, HandleTable.resolve_invalidateAll] at known
    cases known
  roots := (RootSet.map_empty _).symm
  buckets := T.cleared h.buckets
  usage := usage

theorem SameUsage.teardown {a b : Arena} (h : T.SameUsage a.usage b.usage) :
    T.SameUsage (Arena.teardown (ε := AllocError) a).state.usage
      (Arena.teardown (ε := AllocError) b).state.usage := by
  have ready : a.initialized = b.initialized := h.initialized
  unfold Arena.teardown
  rw [ready]
  cases b.initialized with
  | true => exact ⟨rfl, rfl, fun _ => rfl, fun exact => congrArg (· + 1) (h.epoch exact)⟩
  | false => exact h

theorem answer_teardown (heap : Heap) : (Operation.teardown.perform heap).answer = .ok .done := by
  obtain ⟨config, ⟨memory, capacity, used, epoch, initialized⟩, handles, buckets, roots⟩ := heap
  cases initialized <;> rfl

/-- Twin heaps are twins after the end of a session too. -/
theorem related_rewound {a b : Heap} (related : T.Related a.view b.view)
    {operation : Operation Handle} (rewinds : operation.rewinds = true) :
    ((operation.map T.rename).perform a).answer = .ok .done ∧
      (operation.perform b).answer = .ok .done ∧
      T.Related ((operation.map T.rename).perform a).state.view
        (operation.perform b).state.view := by
  have usage : T.SameUsage a.arena.usage b.arena.usage := related.usage
  cases operation with
  | reset =>
    refine ⟨rfl, rfl, related.endAll ⟨usage.initialized, usage.capacity, fun _ => rfl, ?_⟩⟩
    exact fun exact => congrArg (· + 1) (usage.epoch exact)
  | teardown =>
    refine ⟨answer_teardown a, answer_teardown b, ?_⟩
    show T.Related (Operation.teardown.perform a).state.view (Operation.teardown.perform b).state.view
    rw [state_teardown, state_teardown]
    exact related.endAll usage.teardown
  | _ => cases rewinds

end Twin

end HandleHeap
