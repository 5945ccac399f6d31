import HandleHeap.Heap.Interning
import HandleHeap.Proofs.Handle.Accounting
import HandleHeap.Proofs.Heap.View
import HandleHeap.Proofs.Shape.Chain

/-!
# Links in shape records

`View.link?` reads the link of an interned shape from its record. Where the links lead from the
heads of the buckets as `Interned` says, the searches along them never meet a record that is gone
or no shape, and stop before the bound on their steps:

* `Interned.findShape_eq`: the shape found for a prototype is the first of the list that fits;
* `Interned.predecessor_eq`: what is found before a shape is what stands before it in its bucket.

Neither tells an observer anything, since it has no failure to tell of.
-/

namespace HandleHeap

open HandleHeap.Action Heap

/-! ## 1. Links -/

/-- The link that the bytes of a shape hold, if they say that it is interned. -/
def Link.ofBytes (bytes : List UInt8) : Option Link :=
  if ShapeField.isHashed.read bytes then
    some ⟨ShapeField.hash.read bytes, ShapeField.hashNext.read bytes⟩
  else none

namespace View

/-- The link of an interned shape. -/
def link? (view : View) (shape : Handle) : Option Link :=
  match view.contents shape .shape with
  | .ok bytes => Link.ofBytes bytes
  | .error _ => none

/-- The shapes of a list are those in the buckets, and each bucket has them in their order. -/
def Interned (view : View) (shapes : List Handle) : Prop := view.buckets.Interned view.link? shapes

/-- Whether a shape is the property-less one for a prototype. -/
def fits (view : View) (proto shape : Handle) : Bool :=
  view.field shape ShapeField.hash = proto.shapeHash &&
    (view.field shape ShapeField.proto = proto && view.field shape ShapeField.propCount = 0)

variable {view : View} {shape : Handle} {link : Link}

theorem link?_of_contents {bytes : List UInt8} (known : view.contents shape .shape = .ok bytes) :
    view.link? shape = Link.ofBytes bytes := by
  rw [link?, known]

theorem link?_eq_some_iff : view.link? shape = some link ↔
    ∃ bytes, view.contents shape .shape = .ok bytes ∧ ShapeField.isHashed.read bytes = true ∧
      link = ⟨ShapeField.hash.read bytes, ShapeField.hashNext.read bytes⟩ := by
  unfold link? Link.ofBytes
  cases view.contents shape .shape with
  | ok bytes =>
    simp only [Except.ok.injEq, exists_eq_left']
    split
    · next hashed => simp [hashed, eq_comm]
    · next unhashed => simp [unhashed]
  | error stop => simp

theorem link?_withBytes_ne {handle : Handle} (differ : shape ≠ handle)
    (bytes : Option (List UInt8)) : (view.withBytes handle bytes).link? shape = view.link? shape := by
  rw [link?, contents_withBytes_ne _ differ]
  rfl

theorem link?_withBytes_self {handle : Handle} {bytes : List UInt8}
    (known : view.contents handle .shape = .ok bytes) (other : List UInt8) :
    (view.withBytes handle (some other)).link? handle = Link.ofBytes other := by
  rw [link?, contents_withBytes_self _ known]

/-- A view with other bytes has the same links if the bytes hold the same ones. -/
theorem link?_withBytes {handle : Handle} {bytes other : List UInt8}
    (known : view.contents handle .shape = .ok bytes)
    (same : Link.ofBytes other = Link.ofBytes bytes) (shape : Handle) :
    (view.withBytes handle (some other)).link? shape = view.link? shape := by
  by_cases own : shape = handle
  · rw [own, link?_withBytes_self known, link?_of_contents known, same]
  · exact link?_withBytes_ne own _

end View

/-! ## 2. Reading a shape -/

namespace Heap

variable {heap : Heap} {shapes : List Handle}

theorem kind?_of_link? {shape : Handle} {link : Link} (known : heap.view.link? shape = some link) :
    heap.kind? shape = some .shape := by
  obtain ⟨bytes, found, -⟩ := View.link?_eq_some_iff.mp known
  exact (contents_eq_ok found).1

/-- The link of an interned shape is read without any event. -/
theorem Separated.get_hashNext (separated : heap.Separated) {shape : Handle} {link : Link}
    (known : heap.view.link? shape = some link) :
    heap.get shape ShapeField.hashNext = pure link.next := by
  obtain ⟨bytes, found, -, rfl⟩ := View.link?_eq_some_iff.mp known
  exact separated.get_eq_pure found ShapeField.hashNext

/-- Whether a shape fits a prototype is read without any event. -/
theorem Separated.shapeMatches_eq (separated : heap.Separated) {shape : Handle}
    (known : heap.kind? shape = some .shape) (proto : Handle) :
    heap.shapeMatches shape proto = pure (heap.view.fits proto shape) := by
  have found : heap.view.contents shape Layout.shape.kind = _ := contents_of_kind? known
  have reads {scalar : Scalar} (field : Field .shape scalar) :
      heap.get shape field = pure (heap.view.field shape field) := by
    rw [field_of_contents found]
    exact separated.get_eq_pure found field
  simp only [shapeMatches, reads, Report.pure_bind, View.fits]
  by_cases hash : heap.view.field shape ShapeField.hash = proto.shapeHash
  · by_cases same : heap.view.field shape ShapeField.proto = proto
    · simp [hash, same]
    · simp [hash, same]
  · simp [hash]

/-! ## 3. Searching a bucket -/

theorem Separated.findFrom_eq (separated : heap.Separated) (proto : Handle) {shapes : List Handle}
    {start : Handle} (chain : Chain heap.view.link? shapes start) {remaining : Nat}
    (room : shapes.length ≤ remaining) :
    heap.findFrom proto remaining start = pure (shapes.find? (heap.view.fits proto)) := by
  induction shapes generalizing start remaining with
  | nil =>
    cases chain
    unfold findFrom
    rfl
  | cons shape rest ih =>
    obtain ⟨rfl, link, known, chain⟩ := chain
    have kind := kind?_of_link? known
    obtain ⟨remaining, rfl⟩ : ∃ fewer, remaining = fewer + 1 :=
      ⟨remaining - 1, by simp only [List.length_cons] at room; omega⟩
    rw [findFrom, ne_null_of_kind? kind, separated.shapeMatches_eq kind,
      separated.get_hashNext known]
    simp only [Bool.false_eq_true, if_false, Report.pure_bind]
    cases fits : heap.view.fits proto start with
    | true => simp [fits]
    | false => simpa [fits] using ih chain (Nat.le_of_succ_le_succ room)

/-- The search for a shape finds what stands before it, or what the search was told if nothing
does. -/
theorem Separated.predecessor_eq (separated : heap.Separated) {before rest : List Handle}
    {shape start : Handle} (chain : Chain heap.view.link? (before ++ shape :: rest) start)
    (first : shape ∉ before) {remaining : Nat} (room : before.length ≤ remaining)
    (previous : Handle) :
    heap.predecessor shape remaining previous start = pure (before.getLastD previous) := by
  induction before generalizing start remaining previous with
  | nil =>
    obtain ⟨rfl, -⟩ := chain
    unfold predecessor
    exact if_pos rfl
  | cons current before ih =>
    obtain ⟨rfl, link, known, tail⟩ := chain
    obtain ⟨remaining, rfl⟩ : ∃ fewer, remaining = fewer + 1 :=
      ⟨remaining - 1, by simp only [List.length_cons] at room; omega⟩
    obtain ⟨differ, first⟩ := not_or.mp (List.mem_cons.not.mp first)
    rw [predecessor, if_neg (Ne.symm differ), ne_null_of_kind? (kind?_of_link? known),
      separated.get_hashNext known]
    simp only [Bool.false_eq_true, if_false, Report.pure_bind, List.getLastD_cons]
    exact ih tail first (Nat.le_of_succ_le_succ room) start

/-- The shapes of a bucket are fewer than the steps that a search may take. -/
theorem length_bucket_le (accounted : heap.handles.Accounted) (interned : heap.view.Interned shapes)
    (bucket : Nat) :
    (shapes.filter (heap.buckets.holds heap.view.link? bucket)).length ≤ heap.chainLimit := by
  have live (shape : Handle) (listed : shape ∈ shapes) : heap.handles.isLive shape = true := by
    obtain ⟨link, known⟩ := Option.isSome_iff_exists.mp ((interned.linked shape).mp listed)
    exact isLive_of_kind? (kind?_of_link? known)
  calc (shapes.filter (heap.buckets.holds heap.view.link? bucket)).length
    _ ≤ shapes.length := List.length_filter_le ..
    _ ≤ heap.handles.live := HandleTable.length_le_live accounted interned.nodup live
    _ ≤ heap.chainLimit := Nat.le_succ _

/-- A shape that fits a prototype is in the bucket that is searched for it. -/
theorem find?_bucket (interned : heap.view.Interned shapes) (proto : Handle) :
    (shapes.filter (heap.view.buckets.holds heap.view.link? (heap.bucketOf proto.shapeHash))).find?
      (heap.view.fits proto) = shapes.find? (heap.view.fits proto) := by
  rw [← List.head?_filter, ← List.head?_filter, List.filter_filter]
  refine congrArg _ (List.filter_congr fun shape listed => ?_)
  obtain ⟨link, known⟩ := Option.isSome_iff_exists.mp ((interned.linked shape).mp listed)
  obtain ⟨bytes, found, -, rfl⟩ := View.link?_eq_some_iff.mp known
  rw [ShapeBuckets.holds_of_link known, View.fits, field_of_contents found ShapeField.hash]
  by_cases hash : ShapeField.hash.read bytes = proto.shapeHash
  · simp [hash, bucketOf, view]
  · simp [hash]

/-- The shape found for a prototype is the first interned one that fits. -/
theorem Separated.findShape_eq (separated : heap.Separated) (accounted : heap.handles.Accounted)
    (interned : heap.view.Interned shapes) (proto : Handle) :
    heap.findShape proto = pure (shapes.find? (heap.view.fits proto)) := by
  have found := separated.findFrom_eq proto (interned.chain (heap.bucketOf proto.shapeHash))
    (length_bucket_le accounted interned _)
  rw [find?_bucket interned] at found
  exact found

/-- The search for an interned shape finds that it is the first of its bucket, or what is before
it. -/
theorem Separated.search_cases (separated : heap.Separated) (accounted : heap.handles.Accounted)
    (interned : heap.view.Interned shapes) {shape : Handle} {link : Link}
    (known : heap.view.link? shape = some link) :
    let bucket := shapes.filter (heap.buckets.holds heap.view.link? (heap.bucketOf link.hash))
    let searched := heap.predecessor shape heap.chainLimit .null
      (heap.buckets.head (heap.bucketOf link.hash))
    (∃ others, bucket = shape :: others ∧ searched = pure .null) ∨
      ∃ front previous leading others, bucket = front ++ previous :: shape :: others ∧
        heap.view.link? previous = some leading ∧ shape ≠ previous ∧ searched = pure previous := by
  intro bucket searched
  have few := length_bucket_le accounted interned (heap.bucketOf link.hash)
  have interned : heap.buckets.Interned heap.view.link? shapes := interned
  obtain ⟨before, others, inner⟩ := List.append_of_mem (interned.mem_bucket known)
  have chain := interned.chain (heap.bucketOf link.hash)
  have nodup := interned.nodup.filter
    (heap.buckets.holds heap.view.link? (heap.bucketOf link.hash))
  rw [bucketOf, inner] at chain nodup few
  have first : shape ∉ before := fun earlier =>
    (List.nodup_append.mp nodup).2.2 shape earlier shape (by simp) rfl
  have room : before.length ≤ heap.chainLimit :=
    (by simp : before.length ≤ (before ++ shape :: others).length).trans few
  have found : searched = _ := separated.predecessor_eq chain first room .null
  rcases List.eq_nil_or_concat before with rfl | ⟨front, previous, rfl⟩
  · exact .inl ⟨others, inner, found⟩
  · rw [List.concat_eq_append, List.append_assoc] at inner
    have listed : previous ∈ bucket := by
      show previous ∈ shapes.filter (heap.buckets.holds _ (heap.buckets.bucket link.hash))
      rw [inner]
      simp
    obtain ⟨leading, leads⟩ := Option.isSome_iff_exists.mp
      ((interned.linked previous).mp (List.mem_filter.mp listed).1)
    refine .inr ⟨front, previous, leading, others, inner, leads, ?_, ?_⟩
    · rintro rfl
      simp at first
    · rw [found]
      simp

end Heap

end HandleHeap
