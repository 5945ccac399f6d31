import HandleHeap.Proofs.Pairing.Twin
import HandleHeap.Proofs.Shape.Sessions

/-!
# Twins whose buckets differ

Where hashes differ, or select buckets otherwise, the shapes of twin heaps are in different buckets.
Then the links between them differ too, so the comparison of contents has to pass over links and
must not rest on the heads of buckets (`Twin.Loose`). It is enough that the buckets of both heaps
hold the shapes of one list (`Twin.Abreast`): the operations on shapes answer by the list, and leave
a heap as it was except for links and marks (`View.Relinked`). So

* `Abreast.perform`: an operation answers alike on both heaps and leaves them with one list again.
-/

namespace HandleHeap

open HandleHeap.Action Heap

/-! ## 1. The bytes of links and marks -/

section Bytes

variable {layout : Layout} {scalar : Scalar}

/-- A position in a record is one of a field. -/
def Field.Covers (field : Field layout scalar) (i : Nat) : Prop :=
  field.offset ≤ i ∧ i < field.offset + scalar.width

theorem Field.getElem?_write (field : Field layout scalar) (value : scalar.Carrier Handle)
    (bytes : List UInt8) {i : Nat} (outside : ¬ field.Covers i) :
    (field.write value bytes)[i]? = bytes[i]? := by
  rw [write, getElem?_splice, Scalar.length_encode, if_neg]
  exact fun inside => outside ⟨inside.1, inside.2.1⟩

theorem Field.read_congr {field : Field layout scalar} {a b : List UInt8}
    (same : ∀ i, field.Covers i → a[i]? = b[i]?) : field.read a = field.read b := by
  refine congrArg scalar.decode (List.ext_getElem? fun i => ?_)
  rw [getElem?_window, getElem?_window]
  split
  · next inside => exact same _ ⟨Nat.le_add_right .., Nat.add_lt_add_left inside _⟩
  · rfl

/-- A position in a shape is one of its link or its mark. -/
def ShapeField.Linking (i : Nat) : Prop := hashNext.Covers i ∨ isHashed.Covers i

/-- The bytes of a shape and those with another link and another mark. -/
structure SameUnlinked (before after : List UInt8) : Prop where
  length : after.length = before.length
  bytes : ∀ i, ¬ ShapeField.Linking i → after[i]? = before[i]?

theorem SameUnlinked.refl (bytes : List UInt8) : SameUnlinked bytes bytes := ⟨rfl, fun _ _ => rfl⟩

theorem SameUnlinked.trans {a b c : List UInt8} (first : SameUnlinked a b)
    (second : SameUnlinked b c) : SameUnlinked a c :=
  ⟨second.length.trans first.length,
    fun i other => (second.bytes i other).trans (first.bytes i other)⟩

theorem SameUnlinked.write {field : Field .shape scalar}
    (linking : ∀ i, field.Covers i → ShapeField.Linking i) (value : scalar.Carrier Handle)
    (bytes : List UInt8) : SameUnlinked bytes (field.write value bytes) :=
  ⟨Field.length_write .., fun i other => field.getElem?_write value bytes (other ∘ linking i)⟩

/-- The other fields hold the same. -/
theorem SameUnlinked.read {before after : List UInt8} (same : SameUnlinked before after)
    {field : Field .shape scalar} (next : field.Apart ShapeField.hashNext)
    (hashed : field.Apart ShapeField.isHashed) : field.read after = field.read before := by
  refine Field.read_congr fun i ⟨low, high⟩ => same.bytes i ?_
  rintro (⟨low', high'⟩ | ⟨low', high'⟩)
  · rcases next with before | after <;> omega
  · rcases hashed with before | after <;> omega

end Bytes

/-! ## 2. Links and marks of a heap -/

/-- Only links, marks and buckets were changed. -/
structure View.Relinked (before after : View) : Prop where
  config : after.config = before.config
  usage : after.usage = before.usage
  labels : after.labels = before.labels
  roots : after.roots = before.roots
  others : ∀ handle, before.kind? handle ≠ some .shape → after.bytes handle = before.bytes handle
  shapes : ∀ handle, before.kind? handle = some .shape →
    SameUnlinked ((before.bytes handle).getD []) ((after.bytes handle).getD [])

namespace View.Relinked

variable {a b c : View}

theorem refl (view : View) : Relinked view view :=
  ⟨rfl, rfl, rfl, rfl, fun _ _ => rfl, fun _ _ => .refl _⟩

theorem kind? (h : Relinked a b) (handle : Handle) : b.kind? handle = a.kind? handle := by
  rw [View.kind?, View.kind?, h.labels]

theorem trans (first : Relinked a b) (second : Relinked b c) : Relinked a c where
  config := second.config.trans first.config
  usage := second.usage.trans first.usage
  labels := second.labels.trans first.labels
  roots := second.roots.trans first.roots
  others handle other :=
    (second.others handle (first.kind? handle ▸ other)).trans (first.others handle other)
  shapes handle shape :=
    (first.shapes handle shape).trans (second.shapes handle ((first.kind? handle).trans shape))

/-- A shape is given other bytes. -/
theorem withBytes {view : View} {shape : Handle} {old new : List UInt8}
    (known : view.contents shape .shape = .ok old) (same : SameUnlinked old new) :
    Relinked view (view.withBytes shape (some new)) := by
  refine ⟨rfl, rfl, rfl, rfl, fun handle other => if_neg ?_, fun handle _ => ?_⟩
  · rintro rfl
    rw [View.contents] at known
    split at known
    · cases known
    · next found kind =>
      split at known
      · next own => exact other (kind.trans (congrArg some own))
      · cases known
  · show SameUnlinked _ ((if handle = shape then some new else view.bytes handle).getD [])
    split
    · next own =>
      have stored : (view.bytes handle).getD [] = old := by
        rw [own]
        rw [View.contents] at known
        split at known
        · cases known
        · split at known
          · exact Except.ok.inj known
          · cases known
      rw [stored]
      exact same
    · exact .refl _

end View.Relinked

namespace Heap

variable {heap : Heap} {shapes : List Handle}

/-- Started on a sound heap, only links, marks and buckets are changed. -/
def Relinks (before after : Heap) : Prop :=
  before.Sound → after.Sound ∧ before.view.Relinked after.view

instance : Chained Relinks where
  refl heap sound := ⟨sound, .refl _⟩
  trans first second sound := by
    obtain ⟨middle, early⟩ := first sound
    obtain ⟨after, late⟩ := second middle
    exact ⟨after, early.trans late⟩

theorem relinks_set {scalar : Scalar} {field : Field .shape scalar}
    (linking : ∀ i, field.Covers i → ShapeField.Linking i) (shape : Handle)
    (value : scalar.Carrier Handle) : (set shape field value).Keeps Relinks := by
  refine ⟨fun heap sound => ?_⟩
  cases known : heap.view.contents shape .shape with
  | error stop =>
    have refused : (heap.view.contents shape Layout.shape.kind >>= fun bytes =>
        (.ok (field.write value bytes) : Except Stop (List UInt8))) = .error stop := by
      rw [show heap.view.contents shape Layout.shape.kind = _ from known]
      rfl
    obtain ⟨events, run⟩ := (edits_set shape field value).refused sound.toSeparated refused
    rw [run]
    exact ⟨sound, .refl _⟩
  | ok bytes =>
    have known : heap.view.contents shape Layout.shape.kind = .ok bytes := known
    obtain ⟨after, run, settled, view'⟩ := sound.set_eq known field value
    rw [run, view']
    exact ⟨settled, .withBytes known (.write linking value bytes)⟩

theorem relinks_link (shape next : Handle) :
    (set shape ShapeField.hashNext next).Keeps Relinks :=
  relinks_set (fun _ covered => .inl covered) shape next

theorem relinks_mark (shape : Handle) (hashed : Bool) :
    (set shape ShapeField.isHashed hashed).Keeps Relinks :=
  relinks_set (fun _ covered => .inr covered) shape hashed

theorem relinked_buckets (heap : Heap) (buckets : ShapeBuckets) :
    heap.view.Relinked (view { heap with buckets }) :=
  ⟨rfl, rfl, rfl, rfl, fun _ _ => rfl, fun _ _ => .refl _⟩

theorem relinks_onBuckets (change : ShapeBuckets → ShapeBuckets) :
    (onBuckets change).Keeps Relinks :=
  ⟨fun heap sound => ⟨sound.withBuckets _, relinked_buckets heap _⟩⟩

theorem relinks_countUnhashed : countUnhashed.Keeps Relinks := by
  refine ⟨fun heap sound => ?_⟩
  unfold countUnhashed
  split
  · exact ⟨sound, .refl _⟩
  · exact ⟨sound.withBuckets _, relinked_buckets heap _⟩

theorem relinks_hashShape (shape : Handle) : (hashShape shape).Keeps Relinks := by
  refine keeps_bind (keeps_look _) fun hashed => ?_
  split
  · exact keeps_pure _
  · exact keeps_bind (keeps_look _) fun _ => keeps_bind (keeps_look _) fun _ =>
      keeps_bind (relinks_link ..) fun _ => keeps_bind (relinks_mark ..) fun _ =>
        relinks_onBuckets _

theorem relinks_unmark (shape : Handle) : (unmark shape).Keeps Relinks :=
  keeps_bind (relinks_link ..) fun _ => keeps_bind (relinks_mark ..) fun _ =>
    keeps_bind relinks_countUnhashed fun _ => keeps_pure _

theorem relinks_passOver (shape : Handle) (hash : UInt32) (next previous : Handle) :
    (passOver shape hash next previous).Keeps Relinks := by
  unfold passOver
  split
  · exact keeps_bind (relinks_onBuckets _) fun _ => relinks_unmark shape
  · exact keeps_bind (relinks_link ..) fun _ => relinks_unmark shape

theorem relinks_unhashShape (shape : Handle) : (unhashShape shape).Keeps Relinks := by
  rw [unhashShape_eq]
  refine keeps_bind (keeps_look _) fun hashed => ?_
  split
  · exact keeps_bind (keeps_look _) fun _ => keeps_bind (keeps_look _) fun _ =>
      keeps_bind (keeps_look _) fun _ => relinks_passOver ..
  · exact keeps_pure _

/-! ## 3. Answers -/

/-- Putting a shape into a bucket fails only for what is no shape. -/
theorem Sound.answer_hashShape (sound : heap.Sound) (interned : heap.view.Interned shapes)
    (shape : Handle) : (hashShape shape heap).answer =
      (heap.view.contents shape .shape).map fun _ => () := by
  cases known : heap.view.contents shape .shape with
  | error stop =>
    obtain ⟨error, events, rfl, refused⟩ := tryGet_eq_error known ShapeField.isHashed
    rw [hashShape, look_bind_of_error (Heap.tryGet · shape ShapeField.isHashed) refused]
    rfl
  | ok bytes =>
    cases marked : ShapeField.isHashed.read bytes with
    | true =>
      have read := sound.tryGet_eq_pure known ShapeField.isHashed
      rw [marked] at read
      rw [hashShape, look_bind_of_pure (Heap.tryGet · shape ShapeField.isHashed) read]
      rfl
    | false =>
      obtain ⟨after, first, run, -⟩ := sound.hashShape_unlinked interned known marked
      rw [run]
      rfl

/-- Taking a shape out of its bucket answers whether it was in one. -/
theorem Sound.answer_unhashShape (sound : heap.Sound) (accounted : heap.handles.Accounted)
    (interned : heap.view.Interned shapes) (shape : Handle) : (unhashShape shape heap).answer =
      (heap.view.contents shape .shape).map ShapeField.isHashed.read := by
  cases known : heap.view.contents shape .shape with
  | error stop =>
    obtain ⟨error, events, rfl, refused⟩ := tryGet_eq_error known ShapeField.isHashed
    rw [unhashShape, look_bind_of_error (Heap.tryGet · shape ShapeField.isHashed) refused]
    rfl
  | ok bytes =>
    show _ = Except.ok (ShapeField.isHashed.read bytes)
    cases marked : ShapeField.isHashed.read bytes with
    | true =>
      have linked := View.link?_eq_some_iff.mpr ⟨bytes, known, marked, rfl⟩
      obtain ⟨after, run, -⟩ := sound.unhashShape_linked accounted interned linked
      rw [run]
    | false =>
      have unlinked : heap.view.link? shape = none := by
        rw [View.link?_of_contents known, Link.ofBytes, marked]
        rfl
      rw [sound.unhashShape_unlinked (contents_eq_ok known).1 unlinked]

/-- Ending a record takes it out of its bucket, if it is a shape in one, and ends its handle. -/
theorem Sound.invalidate_eq (sound : heap.Sound) (accounted : heap.handles.Accounted)
    (interned : heap.view.Interned shapes) (handle : Handle) :
    let ended := onTable (HandleTable.invalidate handle) (unhashShape handle heap).state
    (invalidate handle heap).answer = ended.answer ∧
      (invalidate handle heap).state = ended.state := by
  have taken := sound.answer_unhashShape accounted interned handle
  have invalidated := sound.invalidated handle
  generalize (invalidate handle heap).answer = answer, (invalidate handle heap).state = after
    at invalidated ⊢
  cases invalidated with
  | fault stopped =>
    rw [stopped] at taken
    cases known : heap.view.contents handle .shape with
    | ok bytes =>
      rw [known] at taken
      cases taken
    | error stop =>
      obtain ⟨error, -, rfl, -⟩ := tryGet_eq_error known ShapeField.isHashed
      rw [known] at taken
      cases taken
  | ended _ => exact ⟨rfl, rfl⟩

end Heap

/-! ## 4. Shapes on both heaps -/

namespace Twin

variable {T : Twin}

/-- The comparison passes over links, so that it cannot tell buckets apart. -/
structure Loose (T : Twin) : Prop where
  lockstep : T.lockstep
  counted : ∀ {a b : ShapeBuckets}, a.hashed = b.hashed → T.buckets a b
  marks : ∀ {a b}, T.alike .shape a b → ShapeField.isHashed.read a = ShapeField.isHashed.read b
  fits : ∀ {a b}, T.alike .shape a b → ∀ proto : Handle,
    (ShapeField.hash.read a = (T.rename proto).shapeHash ∧ ShapeField.proto.read a = T.rename proto ∧
        ShapeField.propCount.read a = 0 ↔
      ShapeField.hash.read b = proto.shapeHash ∧ ShapeField.proto.read b = proto ∧
        ShapeField.propCount.read b = 0)
  relinked : ∀ {a b a' b'}, T.alike .shape a b → SameUnlinked a a' → SameUnlinked b b' →
    ShapeField.isHashed.read a' = ShapeField.isHashed.read b' → T.alike .shape a' b'

/-- Twin heaps whose buckets hold the shapes of one list. -/
structure Abreast (T : Twin) (shapes : List Handle) (a b : Heap) : Prop where
  sound : a.Sound
  sound' : b.Sound
  related : T.Related a.view b.view
  interned : a.view.Interned (shapes.map T.rename)
  interned' : b.view.Interned shapes

/-- Two outcomes are alike, and so are the heaps. -/
def Ends {α β : Type} (T : Twin) (same : α → β → Prop) (x : Outcome Stop Heap α)
    (y : Outcome Stop Heap β) : Prop :=
  Alike same x.answer y.answer ∧ T.Related x.state.view y.state.view

theorem Loose.ends {α β : Type} {same : α → β → Prop} {x : Outcome Stop Heap α}
    {y : Outcome Stop Heap β} (loose : T.Loose) (agree : T.pairing.Agree same x y) :
    T.Ends same x y :=
  agree.alike.resolve_left fun spent => spent.1 loose.lockstep

namespace Abreast

variable {a b : Heap} {shapes : List Handle} (h : T.Abreast shapes a b)

section
include h

theorem accounted : a.handles.Accounted :=
  (HandleTable.accounted_map ..).mp h.related.labels.accounted

theorem accounted' : b.handles.Accounted :=
  (HandleTable.accounted_map ..).mp h.related.labels.accounted'

theorem contents (shape : Handle) :
    Alike (T.alike .shape) (a.view.contents (T.rename shape) .shape)
      (b.view.contents shape .shape) :=
  h.related.contents shape .shape

/-- A shape of the list is a record on both heaps. -/
theorem contents_of_mem {shape : Handle} (listed : shape ∈ shapes) : ∃ x y,
    a.view.contents (T.rename shape) .shape = .ok x ∧ b.view.contents shape .shape = .ok y ∧
      T.alike .shape x y := by
  obtain ⟨link, linked⟩ := Option.isSome_iff_exists.mp ((h.interned'.linked shape).mp listed)
  obtain ⟨y, known, -⟩ := View.link?_eq_some_iff.mp linked
  have contents := h.contents shape
  rw [known] at contents ⊢
  generalize a.view.contents (T.rename shape) .shape = x at contents ⊢
  cases contents with
  | ok alike => exact ⟨_, y, rfl, rfl, alike⟩

end

variable (loose : T.Loose)
include h loose

theorem fits {shape : Handle} (listed : shape ∈ shapes) (proto : Handle) :
    a.view.fits (T.rename proto) (T.rename shape) = b.view.fits proto shape := by
  obtain ⟨x, y, left, right, alike⟩ := h.contents_of_mem listed
  have reads {scalar : Scalar} (field : Field .shape scalar) :
      a.view.field (T.rename shape) field = field.read x ∧ b.view.field shape field = field.read y :=
    ⟨field_of_contents left field, field_of_contents right field⟩
  rw [Bool.eq_iff_iff]
  simp only [View.fits, Bool.and_eq_true, decide_eq_true_eq, (reads _).1, (reads _).2]
  exact loose.fits alike proto

/-- The first shape of the list that fits a prototype. -/
theorem find? (proto : Handle) :
    (shapes.map T.rename).find? (a.view.fits (T.rename proto)) =
      (shapes.find? (b.view.fits proto)).map T.rename := by
  rw [List.find?_map, ← List.head?_filter, ← List.head?_filter]
  refine congrArg (Option.map T.rename ∘ List.head?) (List.filter_congr fun shape listed => ?_)
  exact h.fits loose listed proto

/-- Both heaps were relinked so that their buckets hold the shapes of one list again. -/
theorem related_relinked {a' b' : Heap} {shapes' : List Handle} (left : a.view.Relinked a'.view)
    (right : b.view.Relinked b'.view) (interned : a'.view.Interned (shapes'.map T.rename))
    (interned' : b'.view.Interned shapes') : T.Related a'.view b'.view where
  config := by
    rw [left.config, right.config]
    exact h.related.config
  labels := by
    rw [left.labels, right.labels]
    exact h.related.labels
  same exact := by
    rw [left.labels, right.labels]
    exact h.related.same exact
  bytes {handle label} known := by
    rw [right.labels] at known
    have alike := h.related.bytes known
    have kind : b.view.kind? handle = some label.kind := congrArg (Option.map Label.kind) known
    have kind' := (h.related.kind? handle).trans kind
    by_cases shape : label.kind = .shape
    · rw [shape] at alike kind kind' ⊢
      refine loose.relinked alike (left.shapes _ kind') (right.shapes _ kind) ?_
      have marked (heap : Heap) (handle : Handle) (kind : heap.view.kind? handle = some .shape) :
          (heap.view.link? handle).isSome =
            ShapeField.isHashed.read ((heap.view.bytes handle).getD []) := by
        rw [View.link?_of_contents (contents_of_kind? (heap.kind?_view handle ▸ kind)),
          Link.ofBytes]
        show _ = ShapeField.isHashed.read ((heap.bytes? handle).getD [])
        cases ShapeField.isHashed.read ((heap.bytes? handle).getD []) <;> rfl
      rw [← marked a' _ ((left.kind? _).trans kind'), ← marked b' _ ((right.kind? _).trans kind),
        Bool.eq_iff_iff]
      have linked := interned.linked (T.rename handle)
      rw [List.mem_map_of_injective T.rename_injective] at linked
      exact linked.symm.trans (interned'.linked handle)
    · rw [left.others _ (by rw [kind']; simpa using shape),
        right.others _ (by rw [kind]; simpa using shape)]
      exact alike
  roots := by
    rw [left.roots, right.roots]
    exact h.related.roots
  buckets := by
    refine loose.counted ?_
    rw [interned.count, interned'.count, List.length_map]
  usage := by
    rw [left.usage, right.usage]
    exact h.related.usage

/-! ## 5. Operations on shapes -/

theorem findShape (proto : Handle) :
    (a.findShape (T.rename proto)).answer = .ok ((shapes.find? (b.view.fits proto)).map T.rename) ∧
      (b.findShape proto).answer = .ok (shapes.find? (b.view.fits proto)) := by
  rw [h.sound.findShape_eq h.accounted h.interned,
    h.sound'.findShape_eq h.accounted' h.interned', h.find? loose]
  exact ⟨rfl, rfl⟩

omit loose in
/-- Whether a handle names a shape that is in no bucket. -/
theorem unhashed_iff (loose : T.Loose) (shape : Handle) :
    (a.kind? (T.rename shape) = some .shape ∧
        a.view.field (T.rename shape) ShapeField.isHashed = false) ↔
      b.kind? shape = some .shape ∧ b.view.field shape ShapeField.isHashed = false := by
  have kind := h.related.kind? shape
  rw [kind?_view, kind?_view] at kind
  rw [kind]
  refine and_congr_right fun shaped => ?_
  have known : b.view.contents shape Layout.shape.kind = _ := contents_of_kind? shaped
  have known' : a.view.contents (T.rename shape) Layout.shape.kind = _ :=
    contents_of_kind? (kind.trans shaped)
  have contents : Alike (T.alike .shape) (a.view.contents (T.rename shape) Layout.shape.kind)
    (b.view.contents shape Layout.shape.kind) := h.contents shape
  rw [known, known'] at contents
  cases contents with
  | ok alike => rw [field_of_contents known, field_of_contents known', loose.marks alike]

theorem relink_hashShape (shape : Handle) :
    (Operation.hashShape (T.rename shape)).relink a (shapes.map T.rename) =
      ((Operation.hashShape shape).relink b shapes).map T.rename := by
  simp only [Operation.relink, h.unhashed_iff loose shape]
  split <;> rfl

theorem hashShape (shape : Handle) :
    T.Ends Eq (Heap.hashShape (T.rename shape) a) (Heap.hashShape shape b) := by
  constructor
  · rw [h.sound.answer_hashShape h.interned, h.sound'.answer_hashShape h.interned']
    have contents := h.contents shape
    generalize a.view.contents (T.rename shape) .shape = x, b.view.contents shape .shape = y
      at contents
    cases contents with
    | ok alike => exact .ok rfl
    | error stop => exact .error stop
  · have interned := h.sound.interned_hashShape h.interned (T.rename shape)
    rw [h.relink_hashShape loose] at interned
    exact h.related_relinked loose ((relinks_hashShape (T.rename shape)).step a h.sound).2
      ((relinks_hashShape shape).step b h.sound').2 interned
      (h.sound'.interned_hashShape h.interned' shape)

theorem unhashShape (shape : Handle) :
    T.Ends Eq (Heap.unhashShape (T.rename shape) a) (Heap.unhashShape shape b) := by
  constructor
  · rw [h.sound.answer_unhashShape h.accounted h.interned,
      h.sound'.answer_unhashShape h.accounted' h.interned']
    have contents := h.contents shape
    generalize a.view.contents (T.rename shape) .shape = x, b.view.contents shape .shape = y
      at contents
    cases contents with
    | ok alike => exact .ok (loose.marks alike)
    | error stop => exact .error stop
  · have interned := h.sound.interned_unhashShape h.accounted h.interned (T.rename shape)
    rw [← List.map_erase T.rename_injective] at interned
    exact h.related_relinked loose ((relinks_unhashShape (T.rename shape)).step a h.sound).2
      ((relinks_unhashShape shape).step b h.sound').2 interned
      (h.sound'.interned_unhashShape h.accounted' h.interned' shape)

theorem invalidate (handle : Handle) :
    T.Ends Eq (Heap.invalidate (T.rename handle) a) (Heap.invalidate handle b) := by
  obtain ⟨answer, state⟩ := h.sound.invalidate_eq h.accounted h.interned (T.rename handle)
  obtain ⟨answer', state'⟩ := h.sound'.invalidate_eq h.accounted' h.interned' handle
  rw [Ends, answer, answer', state, state']
  have agree := T.parallel_end handle _ _ ((relinks_unhashShape _).step a h.sound).1
    ((relinks_unhashShape _).step b h.sound').1 (h.unhashShape loose handle).2
  exact agree.alike.resolve_left fun spent => spent.1 trivial

/-- Both heaps find the shape for a prototype, or make one and put it in front. -/
theorem internShape (proto : Handle) :
    T.Ends (fun u v => u = T.rename v) (Heap.internShape (T.rename proto) a)
      (Heap.internShape proto b) := by
  have searched := h.sound.findShape_eq h.accounted h.interned (T.rename proto)
  have searched' := h.sound'.findShape_eq h.accounted' h.interned' proto
  rw [h.find? loose] at searched
  rw [Heap.internShape, Heap.internShape,
    look_bind_of_pure (Heap.findShape · (T.rename proto)) searched,
    look_bind_of_pure (Heap.findShape · proto) searched']
  cases shapes.find? (b.view.fits proto) with
  | some shape => exact ⟨.ok rfl, h.related⟩
  | none =>
    simp only [Option.map_none]
    have agree := T.lawful.allocShape proto initialPropSize a b h.sound h.sound' h.related
    have made := Sound.allocShape h.sound (T.rename proto) initialPropSize
    have made' := Sound.allocShape h.sound' proto initialPropSize
    have kept := made.interned h.interned (ofBytes_newShape ..)
    have kept' := made'.interned h.interned' (ofBytes_newShape ..)
    rcases run : Heap.allocShape (T.rename proto) initialPropSize a with ⟨answer, middle, events⟩
    rcases run' : Heap.allocShape proto initialPropSize b with ⟨answer', middle', events'⟩
    rw [show T.pairing.rename = T.rename from rfl, run, run'] at agree
    rw [run] at kept
    rw [run'] at kept'
    cases agree with
    | error related =>
      rw [bind_apply_of_error run, bind_apply_of_error run']
      exact ⟨.error _, related⟩
    | spent free => exact absurd loose.lockstep free
    | @ok u shape _ _ _ _ same related sound sound' =>
      cases same
      have middles : T.Abreast shapes middle middle' := ⟨sound, sound', related, kept, kept'⟩
      obtain ⟨answered, related⟩ := middles.hashShape loose shape
      rw [Ends, answer_bind_of_ok run, answer_bind_of_ok run', state_bind_of_ok run,
        state_bind_of_ok run']
      rcases hashed : Heap.hashShape (T.rename shape) middle with ⟨done, after, told⟩
      rcases hashed' : Heap.hashShape shape middle' with ⟨done', after', told'⟩
      rw [hashed, hashed'] at answered related
      cases answered with
      | ok =>
        rw [bind_apply_of_ok hashed, bind_apply_of_ok hashed']
        exact ⟨.ok rfl, related⟩
      | error stop =>
        rw [bind_apply_of_error hashed, bind_apply_of_error hashed']
        exact ⟨.error stop, related⟩

/-! ## 6. Operations -/

/-- An operation leaves one list on both heaps. -/
theorem relink (operation : Operation Handle) :
    (operation.map T.rename).relink a (shapes.map T.rename) =
      (operation.relink b shapes).map T.rename := by
  cases operation with
  | hashShape shape => exact h.relink_hashShape loose shape
  | unhashShape shape | invalidate shape => exact (List.map_erase T.rename_injective _).symm
  | internShape proto =>
    have answers := (h.internShape loose proto).1
    simp only [Operation.map, Operation.relink, h.find? loose]
    generalize (Heap.internShape (T.rename proto) a).answer = x,
      (Heap.internShape proto b).answer = y at answers
    cases shapes.find? (b.view.fits proto) with
    | some shape => rfl
    | none =>
      cases answers with
      | ok same =>
        cases same
        rfl
      | error stop => rfl
  | _ => rfl

omit h loose in
/-- What is answered in the end is told of alike. -/
theorem telling {α β : Type} {same : α → β → Prop} {f : HeapAction α} {g : HeapAction β}
    {tell : α → Answer Handle} {tell' : β → Answer Handle}
    (ends : T.Ends same (f a) (g b)) (told : ∀ {u v}, same u v → tell u = (tell' v).map T.rename) :
    T.Ends (fun u v => u = v.map T.rename) ((f >>= fun u => pure (tell u)) a)
      ((g >>= fun v => pure (tell' v)) b) := by
  rcases run : f a with ⟨answer, after, events⟩
  rcases run' : g b with ⟨answer', after', events'⟩
  rw [run, run'] at ends
  obtain ⟨answers, related⟩ := ends
  cases answers with
  | ok same =>
    rw [bind_apply_of_ok run, bind_apply_of_ok run']
    exact ⟨.ok (told same), related⟩
  | error stop =>
    rw [bind_apply_of_error run, bind_apply_of_error run']
    exact ⟨.error stop, related⟩

end Abreast

/-- The operations that tell nothing of a heap but what its twins tell too. -/
def Tells (T : Twin) : Operation Handle → Prop
  | .reserve .. | .invalidate .. | .findShape .. | .internShape .. | .hashShape .. | .unhashShape ..
  | .reset | .teardown => True
  | operation => T.pairing.Plain operation

/-- An operation answers alike on twin heaps whose buckets hold the shapes of one list. -/
theorem Abreast.perform {a b : Heap} {shapes : List Handle} (h : T.Abreast shapes a b)
    (loose : T.Loose) {operation : Operation Handle} (tells : T.Tells operation) :
    T.Ends (fun u v => u = v.map T.rename) ((operation.map T.rename).perform a)
      (operation.perform b) := by
  have rewound (rewinds : operation.rewinds = true) : T.Ends (fun u v => u = v.map T.rename)
      ((operation.map T.rename).perform a) (operation.perform b) := by
    obtain ⟨left, right, related⟩ := related_rewound h.related rewinds
    refine ⟨?_, related⟩
    rw [left, right]
    exact .ok rfl
  have plainly (plain : T.pairing.Plain operation) :=
    loose.ends (T.lawful.perform T.rename_injective plain a b h.sound h.sound' h.related)
  cases operation with
  | reserve size =>
    have ends := loose.ends (T.parallel_request size a b h.sound h.sound' h.related)
    exact telling ends fun same => congrArg Answer.number (same loose.lockstep)
  | invalidate target => exact telling (h.invalidate loose target) fun same => by rw [same]; rfl
  | findShape proto =>
    obtain ⟨left, right⟩ := h.findShape loose proto
    refine telling (f := look (·.findShape (T.rename proto))) (g := look (·.findShape proto))
      ⟨?_, h.related⟩ fun same => congrArg Answer.handle? same
    show Alike _ (a.findShape (T.rename proto)).answer (b.findShape proto).answer
    rw [left, right]
    exact .ok rfl
  | internShape proto =>
    exact telling (h.internShape loose proto) fun same => congrArg Answer.handle same
  | hashShape shape => exact telling (h.hashShape loose shape) fun _ => rfl
  | unhashShape shape => exact telling (h.unhashShape loose shape) fun same => by rw [same]; rfl
  | reset | teardown => exact rewound rfl
  | _ => exact plainly tells

end Twin

end HandleHeap
