import HandleHeap.Proofs.Shape.Keeping
import HandleHeap.Proofs.Shape.Linking

/-!
# Putting shapes into buckets and taking them out

What the operations on shapes do to a heap whose buckets hold the shapes of a list:

* `Sound.hashShape_unlinked`: a shape that is in no bucket comes to stand in front of the list;
* `Sound.unhashShape_linked`: a shape is taken out of the list;
* `Sound.internShape`: the shape for a prototype is found, or is made and put in front (`Shared`).
-/

namespace HandleHeap

open HandleHeap.Action

/-! ## 1. Fields of links -/

namespace Link

variable {bytes : List UInt8}

theorem ofBytes_hashNext (whole : bytes.length = Layout.shape.size) (next : Handle) :
    ofBytes (ShapeField.hashNext.write next bytes) =
      (ofBytes bytes).map ({ · with next }) := by
  unfold ofBytes
  rw [Field.read_write_apart _ _ (by decide), Field.read_write_apart _ _ (by decide),
    Field.read_write _ _ whole]
  split <;> rfl

theorem ofBytes_isHashed (whole : bytes.length = Layout.shape.size) (hashed : Bool) :
    ofBytes (ShapeField.isHashed.write hashed bytes) =
      if hashed then some ⟨ShapeField.hash.read bytes, ShapeField.hashNext.read bytes⟩
      else none := by
  unfold ofBytes
  rw [Field.read_write _ _ whole, Field.read_write_apart _ _ (by decide),
    Field.read_write_apart _ _ (by decide)]

end Link

namespace Heap

variable {heap : Heap} {shapes : List Handle}

/-! ## 2. Into a bucket -/

theorem Sound.hashShape_unlinked (sound : heap.Sound) (interned : heap.view.Interned shapes)
    {shape : Handle} {bytes : List UInt8} (known : heap.view.contents shape .shape = .ok bytes)
    (unmarked : ShapeField.isHashed.read bytes = false) :
    ∃ after first, hashShape shape heap = ⟨.ok (), after, []⟩ ∧ after.Sound ∧
      after.view.Interned (shape :: shapes) ∧ after.view.contents shape .shape =
        .ok (ShapeField.isHashed.write true (ShapeField.hashNext.write first bytes)) := by
  have whole : bytes.length = Layout.shape.size := sound.allows_contents known
  let first := heap.buckets.head (heap.bucketOf (ShapeField.hash.read bytes))
  obtain ⟨after, run, sound', view'⟩ := sound.hashShape_eq known unmarked
  have linked (other : Handle) : after.view.link? other = (heap.view.withBytes shape
      (some (ShapeField.isHashed.write true (ShapeField.hashNext.write first bytes)))).link? other := by
    rw [view']
    rfl
  refine ⟨after, first, run, sound', ?_, ?_⟩
  · rw [View.Interned, view']
    refine interned.push ?_ (ne_null_of_kind? (contents_eq_ok known).1) ?_ fun other differ => ?_
    · rw [View.link?_of_contents known, Link.ofBytes, unmarked]
      rfl
    · rw [← view', linked, View.link?_withBytes_self known,
        Link.ofBytes_isHashed (by simpa using whole), Field.read_write_apart _ _ (by decide),
        Field.read_write _ _ whole]
      rfl
    · rw [← view', linked, View.link?_withBytes_ne differ]
  · rw [view']
    exact View.contents_withBytes_self _ known _

/-! ## 3. Out of a bucket -/

/-- The mark and the link of a shape that nothing leads to are taken away. -/
theorem Sound.unmark (sound : heap.Sound) {shape : Handle} {bytes : List UInt8}
    (known : heap.view.contents shape .shape = .ok bytes) (counted : heap.buckets.hashed ≠ 0) :
    ∃ after, Heap.unmark shape heap = ⟨.ok true, after, []⟩ ∧ after.Sound ∧
      after.buckets = { heap.buckets with hashed := heap.buckets.hashed - 1 } ∧
      after.view.link? shape = none ∧
      ∀ other, other ≠ shape → after.view.link? other = heap.view.link? other := by
  have whole : bytes.length = Layout.shape.size := sound.allows_contents known
  obtain ⟨cleared, run, sound', view⟩ := sound.unmark_eq known
  have buckets : cleared.buckets = heap.buckets := congrArg View.buckets view
  have count : countUnhashed cleared = ⟨.ok (), { cleared with
      buckets := { cleared.buckets with hashed := cleared.buckets.hashed - 1 } }, []⟩ := by
    rw [countUnhashed, if_neg (buckets ▸ counted)]
  refine ⟨_, ?_, sound'.withBuckets _, congrArg
    (fun buckets : ShapeBuckets => { buckets with hashed := buckets.hashed - 1 }) buckets, ?_,
    fun other differ => ?_⟩
  · rw [run, uncount, bind_apply_of_ok count]
    rfl
  · show cleared.view.link? shape = none
    rw [view, View.link?_withBytes_self known, Link.ofBytes_isHashed (by simpa using whole)]
    rfl
  · show cleared.view.link? other = heap.view.link? other
    rw [view, View.link?_withBytes_ne differ]

theorem Sound.unhashShape_linked (sound : heap.Sound) (accounted : heap.handles.Accounted)
    (interned : heap.view.Interned shapes) {shape : Handle} {link : Link}
    (known : heap.view.link? shape = some link) :
    ∃ after, unhashShape shape heap = ⟨.ok true, after, []⟩ ∧ after.Sound ∧
      after.view.Interned (shapes.erase shape) := by
  have place := sound.search_cases accounted interned known
  have interned : heap.buckets.Interned heap.view.link? shapes := interned
  obtain ⟨bytes, contents, marked, rfl⟩ := View.link?_eq_some_iff.mp known
  have listed : shape ∈ shapes := (interned.linked shape).mpr (by rw [known]; rfl)
  have isHashed := sound.tryGet_eq_pure contents ShapeField.isHashed
  have hash := sound.tryGet_eq_pure contents ShapeField.hash
  have next := sound.tryGet_eq_pure contents ShapeField.hashNext
  rw [marked] at isHashed
  have counted : heap.buckets.hashed ≠ 0 := by
    rw [interned.count]
    exact List.ne_nil_of_mem listed ∘ List.eq_nil_of_length_eq_zero
  rw [unhashShape_of_marked isHashed hash next]
  rcases place with ⟨others, first, searched⟩ |
    ⟨front, previous, leading, others, inner, leads, differ, searched⟩
  · -- The head of the bucket is set to what follows.
    let skipped := heap.buckets.setHead (heap.bucketOf (ShapeField.hash.read bytes))
      (ShapeField.hashNext.read bytes)
    have kept : View.contents (view { heap with buckets := skipped }) shape .shape = .ok bytes :=
      contents
    obtain ⟨after, run, sound', buckets, gone, same⟩ :=
      (sound.withBuckets skipped).unmark kept counted
    refine ⟨after, ?_, sound', ?_⟩
    · rw [look_bind_of_pure (fun heap : Heap => heap.predecessor shape heap.chainLimit .null
        (heap.buckets.head (heap.bucketOf (ShapeField.hash.read bytes)))) searched]
      exact (passOver_first rfl heap).trans run
    · show after.buckets.Interned after.view.link? (shapes.erase shape)
      rw [buckets]
      exact interned.unlink_first known first gone same rfl rfl (interned.head_setHead_next known)
  · -- The link of the shape before it is set to what follows.
    obtain ⟨old, contents', marked', rfl⟩ := View.link?_eq_some_iff.mp leads
    have whole : old.length = Layout.shape.size := sound.allows_contents contents'
    obtain ⟨mended, set, sound', view'⟩ := sound.set_eq contents' ShapeField.hashNext
      (ShapeField.hashNext.read bytes)
    have kept : mended.view.contents shape .shape = .ok bytes := by
      rw [view', View.contents_withBytes_ne _ differ, contents]
    have unchanged : mended.buckets = heap.buckets := (congrArg View.buckets view' :)
    have counted' : mended.buckets.hashed ≠ 0 := unchanged ▸ counted
    obtain ⟨after, run, sound'', buckets, gone, same⟩ := sound'.unmark kept counted'
    refine ⟨after, ?_, sound'', ?_⟩
    · rw [look_bind_of_pure (fun heap : Heap => heap.predecessor shape heap.chainLimit .null
        (heap.buckets.head (heap.bucketOf (ShapeField.hash.read bytes)))) searched]
      exact (passOver_inner (ne_null_of_kind? (kind?_of_link? leads)) set).trans run
    · show after.buckets.Interned after.view.link? (shapes.erase shape)
      rw [buckets, unchanged]
      refine interned.unlink_inner known inner leads gone ?_ (fun other differ' own => ?_) rfl rfl
        fun _ => rfl
      · rw [same previous (Ne.symm differ), view', View.link?_withBytes_self contents',
          Link.ofBytes_hashNext whole, Link.ofBytes, marked']
        rfl
      · rw [same other own, view', View.link?_withBytes_ne differ']

theorem link?_of_unlisted (interned : heap.view.Interned shapes) {shape : Handle}
    (unlisted : shape ∉ shapes) : heap.view.link? shape = none := by
  rwa [← Option.not_isSome_iff_eq_none, ← interned.linked]

/-! ## 4. The shape for a prototype -/

/-- What asking for the shape for a prototype comes to. -/
inductive Shared (proto : Handle) (shapes : List Handle) (heap after : Heap) :
    Except Stop Handle → Prop
  | found {shape : Handle} : shapes.find? (heap.view.fits proto) = some shape → after = heap →
      Shared proto shapes heap after (.ok shape)
  | made {shape : Handle} : shapes.find? (heap.view.fits proto) = none →
      heap.isLive shape = false → after.kind? shape = some .shape →
      after.view.fits proto shape = true →
      (∀ other, other ≠ shape → after.labels.resolve other = heap.labels.resolve other ∧
        after.bytes? other = heap.bytes? other) →
      after.view.Interned (shape :: shapes) → after.Sound →
      Shared proto shapes heap after (.ok shape)
  | refused {error : HeapError} : shapes.find? (heap.view.fits proto) = none →
      (error = .handleTableFull ∨ ∃ cause, error = .outOfMemory cause) →
      (∀ other, after.labels.resolve other = heap.labels.resolve other ∧
        after.bytes? other = heap.bytes? other) →
      after.view.Interned shapes → Shared proto shapes heap after (.error (.refused error))

/-- A new shape fits its prototype, whatever its link. -/
theorem fits_newShape {view : View} {proto shape next : Handle} {propSize : UInt32}
    (known : view.contents shape .shape =
      .ok (ShapeField.isHashed.write true (ShapeField.hashNext.write next
        (newShape proto propSize)))) : view.fits proto shape = true := by
  have reads {scalar : Scalar} (field : Field .shape scalar)
      (hashed : field.Apart ShapeField.isHashed) (link : field.Apart ShapeField.hashNext) :
      view.field shape field = field.read (newShape proto propSize) := by
    rw [View.field, show view.contents shape Layout.shape.kind = _ from known]
    exact (Field.read_write_apart _ _ hashed _).trans (Field.read_write_apart _ _ link _)
  unfold View.fits
  rw [reads ShapeField.hash (by decide) (by decide), reads ShapeField.proto (by decide) (by decide),
    reads ShapeField.propCount (by decide) (by decide), hash_newShape, proto_newShape,
    propCount_newShape]
  simp

theorem Sound.internShape (sound : heap.Sound) (accounted : heap.handles.Accounted)
    (interned : heap.view.Interned shapes) (proto : Handle) :
    Shared proto shapes heap (internShape proto heap).state (internShape proto heap).answer := by
  have searched := sound.findShape_eq accounted interned proto
  have made := Sound.allocShape sound proto initialPropSize
  rw [Heap.internShape, look_bind_of_pure (Heap.findShape · proto) searched]
  cases found : shapes.find? (heap.view.fits proto) with
  | some shape => exact .found found rfl
  | none =>
    simp only
    have kept := made.interned interned (ofBytes_newShape ..)
    rcases run : Heap.allocShape proto initialPropSize heap with ⟨stop | shape, middle, events⟩ <;>
      rw [run] at made kept
    · obtain ⟨error, rfl, cause⟩ := made.error_cases accounted
      rw [bind_apply_of_error run]
      exact .refused found cause made.same_of_error kept
    · obtain ⟨dead, resolved, others⟩ := made.resolve_of_ok
      obtain ⟨after, first, hashed, sound', interned', known⟩ :=
        Sound.hashShape_unlinked made.sound kept made.contents (isHashed_newShape ..)
      have touches := (touches_hashShape shape).step middle made.sound.toSeparated
      rw [hashed] at touches
      rw [answer_bind_of_ok run, state_bind_of_ok run, answer_bind_of_ok hashed,
        state_bind_of_ok hashed]
      refine .made found ?_ (contents_eq_ok known).1 (fits_newShape known) (fun other differ => ?_)
        interned' sound'
      · rw [← isLive_labels, HandleTable.isLive, dead]
        rfl
      · have same : Same other middle after := touches.same differ
        have unmoved : after.labels.resolve other = middle.labels.resolve other := by
          rw [resolve_labels, resolve_labels, same.resolve]
        obtain ⟨label, bytes⟩ := others other differ
        exact ⟨unmoved.trans label, same.bytes.trans bytes⟩

end Heap

end HandleHeap
