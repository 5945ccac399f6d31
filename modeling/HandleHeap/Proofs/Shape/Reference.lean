import HandleHeap.Proofs.Shape.Twins

/-!
# Shapes as a flat list

Whether a shape is interned for a prototype can be told from the list of the interned shapes, the one
put in last in front, without a word of buckets: `shapes_of_orderly`, with its cases in `Heap.Shares`.
So it does not matter how many bits of a hash select a bucket: heaps that were set up with different
ones are twins (`rebucketed`), as they have the same records except for the links between shapes.
-/

namespace HandleHeap

open HandleHeap.Action Heap

/-! ## 1. Bytes apart from links -/

theorem SameUnlinked.symm {a b : List UInt8} (same : SameUnlinked a b) : SameUnlinked b a :=
  ⟨same.length.symm, fun i other => (same.bytes i other).symm⟩

theorem SameUnlinked.splice {a b : List UInt8} (same : SameUnlinked a b) (start : Nat)
    (source : List UInt8) :
    SameUnlinked (HandleHeap.splice a start source) (HandleHeap.splice b start source) := by
  refine ⟨by simp [same.length], fun i other => ?_⟩
  rw [getElem?_splice, getElem?_splice, same.length, same.bytes i other]

/-- A mark is one byte, so bytes that are put into both records cover it or are apart from it. -/
theorem isHashed_splice {a b : List UInt8} (length : a.length = b.length)
    (same : ShapeField.isHashed.read a = ShapeField.isHashed.read b) (start : Nat)
    (source : List UInt8) : ShapeField.isHashed.read (splice a start source) =
      ShapeField.isHashed.read (splice b start source) := by
  have only {i : Nat} (covered : ShapeField.isHashed.Covers i) : i = 32 := by
    obtain ⟨low, high⟩ : 32 ≤ i ∧ i < 32 + 1 := covered
    omega
  by_cases inside : start ≤ 32 ∧ 32 < start + source.length ∧ 32 < a.length
  · refine Field.read_congr fun i covered => ?_
    rw [only covered, getElem?_splice, getElem?_splice, if_pos inside, if_pos (length ▸ inside)]
  · have kept (bytes : List UInt8) (outside : ¬ (start ≤ 32 ∧ 32 < start + source.length ∧
        32 < bytes.length)) : ShapeField.isHashed.read (splice bytes start source) =
          ShapeField.isHashed.read bytes := by
      refine Field.read_congr fun i covered => ?_
      rw [only covered, getElem?_splice, if_neg outside]
    rw [kept a inside, kept b (length ▸ inside), same]

/-- Records that are the same, except for the links of shapes. -/
def SameButLinks : RecordKind → List UInt8 → List UInt8 → Prop
  | .shape, a, b => SameUnlinked a b ∧ ShapeField.isHashed.read a = ShapeField.isHashed.read b
  | _, a, b => a = b

namespace SameButLinks

variable {kind : RecordKind} {a b : List UInt8}

theorem refl (kind : RecordKind) (bytes : List UInt8) : SameButLinks kind bytes bytes := by
  cases kind with
  | shape => exact ⟨.refl bytes, rfl⟩
  | _ => rfl

theorem eq_of_other (same : SameButLinks kind a b) (other : kind ≠ .shape) : a = b := by
  cases kind with
  | shape => exact absurd rfl other
  | _ => exact same

theorem length (same : SameButLinks kind a b) : a.length = b.length := by
  cases kind with
  | shape => exact same.1.length.symm
  | _ => exact congrArg List.length same

theorem splice (same : SameButLinks kind a b) (start : Nat) (source : List UInt8) :
    SameButLinks kind (HandleHeap.splice a start source) (HandleHeap.splice b start source) := by
  cases kind with
  | shape => exact ⟨same.1.splice start source, isHashed_splice same.1.length.symm same.2 ..⟩
  | _ => exact congrArg (HandleHeap.splice · start source) same

/-- A field apart from the links holds the same. -/
theorem read {scalar : Scalar} {field : Field .shape scalar} (same : SameButLinks .shape a b)
    (next : field.Apart ShapeField.hashNext) (hashed : field.Apart ShapeField.isHashed) :
    field.read a = field.read b :=
  (same.1.read next hashed).symm

end SameButLinks

/-! ## 2. Heaps with other buckets -/

/-- Heaps with the same records, except for the links of shapes. -/
def rebucketed : Twin where
  offset _ := 0
  fixed := Twin.fixed_zero
  lockstep := True
  exact := True
  alike := SameButLinks
  configs _ _ := True
  buckets _ _ := True
  readable {layout _} field := ∀ {a b}, SameButLinks layout.kind a b → field.read a = field.read b
  writable _ := True
  unmoved := Twin.unmoved_zero
  length := SameButLinks.length
  zeros _ _ := .refl ..
  newShape proto propSize := by
    rw [Handle.shift_zero]
    exact .refl ..
  fitted {kind _ _ _} array same _ _ := by
    have same := same.eq_of_other (by rcases array with rfl | rfl <;> decide)
    rw [same]
    exact .refl ..
  read {_ scalar _ _ _} readable same := by
    rw [Handle.shift_none, scalar.map_id]
    exact readable same
  write {_ scalar field _ _} _ _ same value := by
    rw [Handle.shift_none, scalar.map_id]
    exact same.splice field.offset (scalar.encode value)
  slot {_ _ _ _} same _ := by
    rw [same.eq_of_other (by decide), Handle.shift_none, Slot.map_id]
  setSlot same _ slot := by
    rw [Handle.shift_none, Slot.map_id]
    exact same.splice _ _
  element same _ := by
    rw [same.eq_of_other (by decide), Handle.shift_none, Value.map_id]
  setElement same _ value := by
    rw [Handle.shift_none, Value.map_id]
    exact same.splice _ _
  cleared _ := trivial
  objects _ := ⟨fun same => congrArg _ (same.eq_of_other (by decide)), trivial⟩
  proto same := same.read (by decide) (by decide)
  propSize same := same.read (by decide) (by decide)

namespace Rebucketed

theorem rename : rebucketed.rename = id := Handle.shift_none

theorem loose : rebucketed.Loose where
  lockstep := trivial
  counted _ := trivial
  marks same := same.2
  fits same proto := by
    have same : SameButLinks .shape _ _ := same
    have hash : ShapeField.hash.read _ = _ := same.read (by decide) (by decide)
    have proto : ShapeField.proto.read _ = _ := same.read (by decide) (by decide)
    have propCount : ShapeField.propCount.read _ = _ := same.read (by decide) (by decide)
    rw [rename, hash, proto, propCount]
    rfl
  relinked same left right marks := ⟨(left.symm.trans same.1).trans right, marks⟩

variable {a b : Heap} {shapes : List Handle}

/-- What only looks at the heaps leaves them as they are. -/
theorem related_of_look (h : rebucketed.Abreast shapes a b) {operation : Operation Handle}
    (looks : ∀ heap, (operation.perform heap).state = heap) :
    rebucketed.Related (operation.perform a).state.view (operation.perform b).state.view := by
  rw [looks, looks]
  exact h.related

/-- The same is done on both heaps. -/
theorem perform (h : rebucketed.Abreast shapes a b) (operation : Operation Handle) :
    rebucketed.Related (operation.perform a).state.view (operation.perform b).state.view := by
  have telling (tells : rebucketed.Tells operation) := (h.perform loose tells).2
  rw [rename, Operation.map_id] at telling
  cases operation with
  | get target field | tryGet target field =>
    exact related_of_look h fun heap => state_bind_pure (look _) _ heap
  | arenaUsage | config | stats | bytes target => exact related_of_look h fun _ => rfl
  | overwrite target start source =>
    have parallel := rebucketed.parallel_overwrite SameButLinks.splice target start source
    have related := (parallel a b h.sound h.sound' h.related).related trivial
    rw [rename] at related
    rwa [← state_bind_pure (Heap.overwrite (id target) start source) Answer.overwritten,
      ← state_bind_pure (Heap.overwrite target start source) Answer.overwritten] at related
  | _ => exact telling trivial

/-- Sessions from heaps with other buckets leave the same list. -/
theorem run {r r' : Nat} (tracked : a.Tracked r) (tracked' : b.Tracked r') (few : r < sizeLimit)
    (few' : r' < sizeLimit) (related : rebucketed.Related a.view b.view)
    (interned : a.view.Interned shapes) (interned' : b.view.Interned shapes)
    {operations : List (Operation Handle)} (orderly : a.Orderly r operations)
    (orderly' : b.Orderly r' operations) :
    a.relinked shapes operations = b.relinked shapes operations ∧
      rebucketed.Related (a.run operations).view (b.run operations).view := by
  induction operations generalizing r r' a b shapes with
  | nil => exact ⟨rfl, related⟩
  | cons operation rest ih =>
    obtain ⟨spares, few₁, orderly⟩ := orderly
    obtain ⟨spares', few₁', orderly'⟩ := orderly'
    have sound := (tracked.sound few).1
    have sound' := (tracked'.sound few').1
    have h : rebucketed.Abreast shapes a b :=
      ⟨sound, sound', related, by rwa [rename, List.map_id], interned'⟩
    have listed := h.relink loose operation
    rw [rename, List.map_id, List.map_id, Operation.map_id] at listed
    have kept := interned_perform tracked few h.accounted interned spares
    have kept' := interned_perform tracked' few' h.accounted' interned' spares'
    rw [listed] at kept
    show relinked _ (operation.relink a shapes) rest = _ ∧ _
    rw [listed]
    exact ih (tracked.perform operation) (tracked'.perform operation) few₁ few₁'
      (perform h operation) kept kept' orderly orderly'

/-- New heaps that differ in the number of their buckets. -/
theorem new {grants : Nat → Bool} {config : Config} {bits : UInt8}
    (made : (Heap.new grants config).answer = .ok a)
    (made' : (Heap.new grants { config with shapeHashBits := bits }).answer = .ok b) :
    rebucketed.Related a.view b.view := by
  obtain ⟨arena, table, -, -, roots⟩ := new_eq_ok made
  obtain ⟨arena', table', -, -, roots'⟩ := new_eq_ok made'
  have arenas : a.arena = b.arena := Except.ok.inj (arena.symm.trans arena')
  have tables : a.handles = b.handles := Except.ok.inj (table.symm.trans table')
  have labels : a.labels = b.labels := congrArg (HandleTable.map _) tables
  have accounted := (HandleTable.accounted_map Placement.label _).mpr
    (HandleTable.accounted_withCapacity table')
  refine ⟨trivial, ?_, fun _ => labels, ?_, ?_, trivial, ?_⟩
  · rw [show a.view.labels = b.view.labels from labels]
    exact .refl accounted
  · intro handle label known
    rw [show rebucketed.rename = id from rename]
    have same : a.view.bytes = b.view.bytes := by
      show a.bytes? = b.bytes?
      unfold Heap.bytes?
      rw [arenas, tables]
    rw [same]
    exact .refl ..
  · rw [show rebucketed.rename = id from rename, RootSet.map_id]
    exact roots.trans roots'.symm
  · have same : a.view.usage = b.view.usage := congrArg Arena.usage arenas
    rw [same]
    exact ⟨rfl, rfl, fun _ => rfl, fun _ => rfl⟩

end Rebucketed

/-! ## 3. Sessions -/

namespace Heap

variable {grants : Nat → Bool} {config : Config} {start heap : Heap} {shapes : List Handle}

/-- Whether a shape has the hash of a prototype, the prototype itself and no property. -/
def suits (heap : Heap) (proto shape : Handle) : Bool :=
  (heap.get shape ShapeField.hash).answer.toOption = some proto.shapeHash &&
    (heap.get shape ShapeField.proto).answer.toOption = some proto &&
    (heap.get shape ShapeField.propCount).answer.toOption = some (0 : UInt32)

theorem Sound.suits_eq (sound : heap.Sound) (proto : Handle) :
    heap.suits proto = heap.view.fits proto := by
  funext shape
  simp [suits, View.fits, sound.answer_get, Except.toOption, Bool.and_assoc]

/-- A record is what it was. -/
structure Unchanged (handle : Handle) (before after : Heap) : Prop where
  kind : after.kind? handle = before.kind? handle
  pinned : after.isPinned handle = before.isPinned handle
  bytes : after.bytes? handle = before.bytes? handle

theorem unchanged_of_label {handle : Handle} {after : Heap}
    (labels : after.labels.resolve handle = heap.labels.resolve handle)
    (bytes : after.bytes? handle = heap.bytes? handle) : Unchanged handle heap after where
  kind := by
    rw [← kind?_view, ← kind?_view]
    exact congrArg (Option.map Label.kind) labels
  pinned := by rw [isPinned_labels, isPinned_labels, labels]
  bytes := bytes

/-- What sharing the shape for a prototype comes to, told of the list of interned shapes. -/
inductive Shares (proto : Handle) (shapes : List Handle) (heap after : Heap) :
    List Handle → Except Stop Handle → Prop
  | found {shape : Handle} : shapes.find? (heap.suits proto) = some shape → after = heap →
      Shares proto shapes heap after shapes (.ok shape)
  | made {shape : Handle} : shapes.find? (heap.suits proto) = none →
      heap.isLive shape = false → after.kind? shape = some .shape →
      after.suits proto shape = true → (∀ other, other ≠ shape → Unchanged other heap after) →
      Shares proto shapes heap after (shape :: shapes) (.ok shape)
  | refused {error : HeapError} : shapes.find? (heap.suits proto) = none →
      (error = .handleTableFull ∨ ∃ cause, error = .outOfMemory cause) →
      (∀ other, Unchanged other heap after) →
      Shares proto shapes heap after shapes (.error (.refused error))

theorem InOrder.shares (order : InOrder config heap shapes) (proto : Handle) :
    Shares proto shapes heap (internShape proto heap).state
      ((Operation.internShape proto).relink heap shapes) (internShape proto heap).answer := by
  have shared := Sound.internShape order.sound order.accounted order.interned proto
  simp only [Operation.relink, ← order.sound.suits_eq]
  generalize (internShape proto heap).state = after, (internShape proto heap).answer = answer
    at shared ⊢
  cases shared with
  | found known same =>
    rw [← order.sound.suits_eq] at known
    rw [known]
    exact .found known same
  | made unknown dead kind fits others interned sound =>
    rw [← order.sound.suits_eq] at unknown
    rw [unknown]
    rw [← sound.suits_eq] at fits
    exact .made unknown dead kind fits fun other differ =>
      unchanged_of_label (others other differ).1 (others other differ).2
  | refused unknown cause others interned =>
    rw [← order.sound.suits_eq] at unknown
    rw [unknown]
    exact .refused unknown cause fun other => unchanged_of_label (others other).1 (others other).2

/-- Heaps that the same orderly session comes to, with one number of buckets or with another. -/
theorem abreast_of_orderly {bits : UInt8} {start' : Heap}
    (made : (Heap.new grants config).answer = .ok start)
    (made' : (Heap.new grants { config with shapeHashBits := bits }).answer = .ok start')
    {operations : List (Operation Handle)} (orderly : start.Orderly 0 operations)
    (orderly' : start'.Orderly 0 operations) :
    start'.relinked [] operations = start.relinked [] operations ∧
      rebucketed.Abreast (start.relinked [] operations) (start.run operations)
        (start'.run operations) := by
  have order := inOrder_of_orderly made orderly
  have order' := inOrder_of_orderly made' orderly'
  obtain ⟨listed, related⟩ := Rebucketed.run (tracked_new made) (tracked_new made') (by decide)
    (by decide) (Rebucketed.new made made') (interned_new made) (interned_new made') orderly orderly'
  refine ⟨listed.symm, order.sound, order'.sound, related, ?_, ?_⟩
  · rw [Rebucketed.rename, List.map_id]
    exact order.interned
  · rw [listed]
    exact order'.interned

/-- The interned shapes of an orderly session are a list. The shape for a prototype is the first of
the list that suits it, and if there is none it is made and put in front. With another number of
buckets the same session comes to the same list and gives the same answers. -/
theorem shapes_of_orderly (made : (Heap.new grants config).answer = .ok start)
    {operations : List (Operation Handle)} (orderly : start.Orderly 0 operations) :
    let heap := start.run operations
    let shapes := start.relinked [] operations
    (∀ proto, heap.findShape proto = ⟨.ok (shapes.find? (heap.suits proto)), []⟩) ∧
      (∀ proto, Shares proto shapes heap (internShape proto heap).state
        ((Operation.internShape proto).relink heap shapes) (internShape proto heap).answer) ∧
      ∀ bits start', (Heap.new grants { config with shapeHashBits := bits }).answer = .ok start' →
        start'.Orderly 0 operations →
        start'.relinked [] operations = shapes ∧
          ∀ proto, ((start'.run operations).findShape proto).answer =
              (heap.findShape proto).answer ∧
            (internShape proto (start'.run operations)).answer =
              (internShape proto heap).answer := by
  intro heap shapes
  have order := inOrder_of_orderly made orderly
  refine ⟨fun proto => ?_, order.shares, fun bits start' made' orderly' => ?_⟩
  · rw [order.sound.suits_eq]
    exact order.findShape_eq proto
  · obtain ⟨listed, abreast⟩ := abreast_of_orderly made made' orderly orderly'
    refine ⟨listed, fun proto => ⟨?_, ?_⟩⟩
    · obtain ⟨found, found'⟩ := abreast.findShape Rebucketed.loose proto
      rw [Rebucketed.rename] at found
      rw [found', show (heap.findShape proto).answer = _ from found, Option.map_id, id]
    · have alike := (abreast.internShape Rebucketed.loose proto).1
      rw [Rebucketed.rename] at alike
      exact alike.eq.symm

/-- A new heap with an arena of 1024 bytes and four buckets. -/
def newWide : Heap :=
  ⟨{ arenaCapacity := 1024, shapeHashBits := 2 }, ⟨.empty, 1024, 0, 0, true⟩, .empty none, .new 2,
    .empty⟩

theorem new_wide : (Heap.new (fun _ => true) { arenaCapacity := 1024, shapeHashBits := 2 }).answer =
    .ok newWide := rfl

/-- A session that interns three shapes, moves the second and ends the third, whose handle is used
again. -/
def internSession : List (Operation Handle) :=
  [.internShape .null, .internShape ⟨1, 0⟩, .internShape ⟨2, 0⟩, .relocate ⟨2, 0⟩,
    .invalidate ⟨3, 0⟩, .internShape ⟨1, 1⟩]

/-- That session with two buckets and with four. -/
theorem shapes_small : newNarrow.Orderly 0 internSession ∧ newWide.Orderly 0 internSession ∧
    ((newNarrow.run internSession).findShape ⟨1, 0⟩).answer = .ok (some ⟨2, 0⟩) ∧
      ((newWide.run internSession).findShape ⟨1, 0⟩).answer = .ok (some ⟨2, 0⟩) := by
  have narrow : newNarrow.Orderly 0 internSession :=
    ⟨trivial, by decide +kernel, trivial, by decide +kernel, trivial, by decide +kernel, trivial,
      by decide +kernel, trivial, by decide +kernel, trivial, by decide +kernel, trivial⟩
  have wide : newWide.Orderly 0 internSession :=
    ⟨trivial, by decide +kernel, trivial, by decide +kernel, trivial, by decide +kernel, trivial,
      by decide +kernel, trivial, by decide +kernel, trivial, by decide +kernel, trivial⟩
  have found : ((newNarrow.run internSession).findShape ⟨1, 0⟩).answer = .ok (some ⟨2, 0⟩) := by
    decide +kernel
  have same := (shapes_of_orderly new_narrow narrow).2.2 2 newWide new_wide wide
  exact ⟨narrow, wide, found, (same.2 ⟨1, 0⟩).1.trans found⟩

end Heap

end HandleHeap
