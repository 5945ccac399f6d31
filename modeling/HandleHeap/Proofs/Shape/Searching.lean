import HandleHeap.Proofs.Heap.Reachable
import HandleHeap.Proofs.Heap.Safety
import HandleHeap.Proofs.Shape.Paths

/-!
# Searches for a shared shape

The search for the shape of a prototype follows the links of a bucket, whatever was stored in them
and in the fields that it compares. `Heap.Fits` is what it compares, read with sentinels where there
is no shape.

* `live_of_fits`: only a live shape fits. No hash of a prototype is the sentinel of the null one.
* `lookThrough`, `findFrom_eq_lookThrough`: the shapes that a search looks at, with all it tells.
* `Searched`, `Intact.searched`: what a search comes to by the shapes it meets.
* `search_of_reached`: the bound on the steps is exact. A search is refused only on a bucket whose
  links go round in a circle without a shape that fits.
-/

namespace HandleHeap

open HandleHeap.Action

namespace Heap

variable {heap : Heap} {proto shape : Handle} {bucket : Nat}

/-! ## 1. Fitting shapes -/

/-- A handle reads as the property-less shape for a prototype. -/
structure Fits (heap : Heap) (proto shape : Handle) : Prop where
  hash : (heap.get shape ShapeField.hash).answer = .ok proto.shapeHash
  proto : (heap.get shape ShapeField.proto).answer = .ok proto
  propCount : (heap.get shape ShapeField.propCount).answer = .ok 0

/-- What is compared is what fits. -/
theorem Intact.answer_shapeMatches (intact : heap.Intact) (shape proto : Handle) :
    ∃ found, (heap.shapeMatches shape proto).answer = .ok found ∧
      (found = true ↔ heap.Fits proto shape) := by
  obtain ⟨hash, hashRead⟩ := intact.exists_answer_get shape ShapeField.hash
  obtain ⟨proto', protoRead⟩ := intact.exists_answer_get shape ShapeField.proto
  obtain ⟨count, countRead⟩ := intact.exists_answer_get shape ShapeField.propCount
  have fits_iff : heap.Fits proto shape ↔
      hash = proto.shapeHash ∧ proto' = proto ∧ count = 0 := by
    constructor
    · intro fits
      exact ⟨Except.ok.inj (hashRead.symm.trans fits.hash),
        Except.ok.inj (protoRead.symm.trans fits.proto),
        Except.ok.inj (countRead.symm.trans fits.propCount)⟩
    · rintro ⟨rfl, rfl, rfl⟩
      exact ⟨hashRead, protoRead, countRead⟩
  rw [fits_iff, Heap.shapeMatches, Report.answer_bind_of_ok hashRead]
  split
  · next other => exact ⟨false, rfl, nofun, fun fits => absurd fits.1 other⟩
  · next hash =>
    rw [Report.answer_bind_of_ok protoRead]
    split
    · next other => exact ⟨false, rfl, nofun, fun fits => absurd fits.2.1 other⟩
    · next same =>
      rw [Report.answer_bind_of_ok countRead]
      refine ⟨decide (count = 0), rfl, fun none => ?_, fun fits => decide_eq_true fits.2.2⟩
      exact ⟨not_not.mp hash, not_not.mp same, of_decide_eq_true none⟩

/-- The hash of the null prototype is not what stands for an unreadable hash. -/
theorem shapeHash_null : Handle.null.shapeHash ≠ Scalar.sentinel .u32 := by decide

/-- Only a live shape fits: what is not there has the null handle for a prototype, but no hash. -/
theorem Intact.live_of_fits (intact : heap.Intact) (fits : heap.Fits proto shape) :
    heap.kind? shape = some .shape ∧
      (heap.tryGet shape ShapeField.proto).answer = .ok proto ∧
      (heap.tryGet shape ShapeField.propCount).answer = .ok 0 := by
  obtain ⟨block, found⟩ : ∃ block, (heap.record shape Layout.shape.kind).answer = .ok block := by
    by_cases null : proto = .null
    · cases null
      exact record_of_tryGet (tryGet_of_get fits.hash shapeHash_null)
    · exact record_of_tryGet (tryGet_of_get fits.proto null)
  have read := intact.tryGet_of_record found fits.proto
  exact ⟨kind?_of_tryGet read, read, intact.tryGet_of_record found fits.propCount⟩

theorem Intact.isNull_of_fits (intact : heap.Intact) (fits : heap.Fits proto shape) :
    shape.isNull = false :=
  ne_null_of_kind? (intact.live_of_fits fits).1

/-! ## 2. What is looked at -/

/-- Looks at one shape after the other, until one fits. Ends in a way of its own if none does. -/
def lookThrough (heap : Heap) (proto : Handle) (ending : Report Stop (Option Handle)) :
    List Handle → Report Stop (Option Handle)
  | [] => ending
  | shape :: rest => do
    if ← heap.shapeMatches shape proto then return some shape
    let _ ← heap.get shape ShapeField.hashNext
    heap.lookThrough proto ending rest

/-- A search looks at the shapes of a bucket in their order, at no more than it may. -/
theorem Legible.findFrom_eq_lookThrough (legible : heap.Legible) (proto : Handle)
    (bucket remaining distance : Nat) :
    ∃ looked ≤ remaining, ∃ ending : Report Stop (Option Handle),
      (ending = pure none ∨ ending = Report.refuse .shapeChainCorrupt) ∧
        heap.findFrom proto remaining (heap.linked bucket distance) =
          heap.lookThrough proto ending ((List.range' distance looked).map (heap.linked bucket)) := by
  induction remaining generalizing distance with
  | zero =>
    unfold findFrom
    split
    · exact ⟨0, Nat.le_refl 0, _, .inl rfl, rfl⟩
    · exact ⟨0, Nat.le_refl 0, _, .inr rfl, rfl⟩
  | succ remaining ih =>
    cases null : (heap.linked bucket distance).isNull with
    | true =>
      unfold findFrom
      rw [if_pos null]
      exact ⟨0, Nat.zero_le _, _, .inl rfl, rfl⟩
    | false =>
      obtain ⟨looked, few, ending, ends, rest⟩ := ih (distance + 1)
      refine ⟨looked + 1, Nat.succ_le_succ few, ending, ends, ?_⟩
      have read := legible (heap.linked bucket distance)
      rcases report : heap.get (heap.linked bucket distance) ShapeField.hashNext with ⟨_, told⟩
      rw [report] at read
      cases read
      unfold findFrom
      simp only [null, Bool.false_eq_true, if_false, List.range'_succ, List.map_cons, lookThrough,
        report, Report.ok_bind, ← rest]
      rfl

/-! ## 3. What a search comes to -/

/-- A bucket has something at a distance, and it does not fit. -/
def Misses (heap : Heap) (proto : Handle) (bucket distance : Nat) : Prop :=
  (heap.linked bucket distance).isNull = false ∧ ¬ heap.Fits proto (heap.linked bucket distance)

/-- What a search along a bucket comes to that looks at no more than `limit` shapes. -/
inductive Searched (heap : Heap) (proto : Handle) (bucket limit : Nat) :
    Except Stop (Option Handle) → Prop
  | found {distance : Nat} : distance < limit → heap.Fits proto (heap.linked bucket distance) →
    (∀ nearer < distance, heap.Misses proto bucket nearer) →
      Searched heap proto bucket limit (.ok (some (heap.linked bucket distance)))
  | ended {distance : Nat} : (heap.linked bucket distance).isNull = true →
    (∀ nearer < distance, heap.Misses proto bucket nearer) →
      Searched heap proto bucket limit (.ok none)
  | corrupt : (heap.linked bucket limit).isNull = false →
    (∀ nearer < limit, heap.Misses proto bucket nearer) →
      Searched heap proto bucket limit (.error (.refused .shapeChainCorrupt))

/-- By induction on the steps that are left, all shapes before having been looked at. -/
theorem Intact.searched (intact : heap.Intact) (proto : Handle) {bucket limit remaining distance : Nat}
    (all : distance + remaining = limit)
    (missed : ∀ nearer < distance, heap.Misses proto bucket nearer) :
    Searched heap proto bucket limit
      (heap.findFrom proto remaining (heap.linked bucket distance)).answer := by
  induction remaining generalizing distance with
  | zero =>
    unfold Heap.findFrom
    cases all
    split
    · next null => exact .ended null missed
    · next some => exact .corrupt (Bool.eq_false_iff.mpr some) missed
  | succ remaining ih =>
    unfold Heap.findFrom
    split
    · next null => exact .ended null missed
    · next some =>
      obtain ⟨found, compared, found_iff⟩ :=
        intact.answer_shapeMatches (heap.linked bucket distance) proto
      rw [Report.answer_bind_of_ok compared]
      cases found with
      | true =>
        exact .found (Nat.lt_of_lt_of_eq (Nat.lt_add_of_pos_right (Nat.succ_pos _)) all)
          (found_iff.mp rfl) missed
      | false =>
        have misses : heap.Misses proto bucket distance :=
          ⟨Bool.eq_false_iff.mpr some, fun fits => Bool.false_ne_true (found_iff.mpr fits)⟩
        simp only [Bool.false_eq_true, if_false]
        rw [Report.answer_bind_of_ok (intact.legible (heap.linked bucket distance))]
        have fewer : distance + 1 + remaining = limit := by
          rw [← all, Nat.add_right_comm, Nat.add_assoc]
        refine ih fewer fun nearer less => ?_
        rcases Nat.lt_succ_iff_lt_or_eq.mp less with before | rfl
        · exact missed nearer before
        · exact misses

/-! ## 4. The bound -/

section Bound

variable {answer : Except Stop (Option Handle)}

/-- A search that is cut off has gone round in a circle: what it met was alive, and more than there
is. -/
theorem Intact.exists_repeat (intact : heap.Intact)
    (some : (heap.linked bucket heap.chainLimit).isNull = false) :
    ∃ near far, near < far ∧ far < heap.chainLimit ∧
      heap.linked bucket near = heap.linked bucket far := by
  by_contra none
  have distinct : ∀ near far, near < far → far < heap.chainLimit →
      heap.linked bucket near ≠ heap.linked bucket far :=
    fun near far less inside same => none ⟨near, far, less, inside, same⟩
  have live (distance : Nat) (inside : distance < heap.chainLimit) :
      heap.handles.isLive (heap.linked bucket distance) = true :=
    isLive_of_kind? (intact.kind?_of_follower (linked_isNull_of_ge (Nat.succ_le_of_lt inside) some))
  exact absurd (le_live_of_distinct intact.handles live distinct) (Nat.not_succ_le_self _)

/-- A search finds the first shape that fits. -/
theorem Searched.found_iff (searched : Searched heap proto bucket heap.chainLimit answer)
    (intact : heap.Intact) (shape : Handle) :
    answer = .ok (some shape) ↔
      ∃ distance, heap.linked bucket distance = shape ∧ heap.Fits proto shape ∧
        ∀ nearer < distance, ¬ heap.Fits proto (heap.linked bucket nearer) := by
  constructor
  · intro found
    cases searched with
    | @found distance _ fits missed =>
      cases found
      exact ⟨distance, rfl, fits, fun nearer less => (missed nearer less).2⟩
    | ended => cases found
    | corrupt => cases found
  · rintro ⟨distance, rfl, fits, first⟩
    cases searched with
    | @found distance' _ fits' missed =>
      rcases Nat.lt_trichotomy distance distance' with less | rfl | more
      · exact absurd fits (missed distance less).2
      · rfl
      · exact absurd fits' (first distance' more)
    | @ended distance' null missed =>
      rcases Nat.lt_or_ge distance distance' with less | beyond
      · exact absurd fits (missed distance less).2
      · exact absurd (linked_isNull_of_le beyond null)
          (Bool.eq_false_iff.mp (intact.isNull_of_fits fits))
    | corrupt _ missed =>
      obtain ⟨nearest, few, fits', -⟩ := intact.exists_first fits fun _ => intact.isNull_of_fits
      exact absurd fits' (missed nearest (Nat.lt_succ_of_le few)).2

/-- A search comes to the end of a bucket that has an end and no shape that fits. -/
theorem Searched.ended_iff (searched : Searched heap proto bucket heap.chainLimit answer)
    (intact : heap.Intact) :
    answer = .ok none ↔ (∃ distance, (heap.linked bucket distance).isNull = true) ∧
      ∀ distance, ¬ heap.Fits proto (heap.linked bucket distance) := by
  constructor
  · intro ended
    cases searched with
    | found => cases ended
    | @ended distance null missed =>
      refine ⟨⟨distance, null⟩, fun other fits => ?_⟩
      rcases Nat.lt_or_ge other distance with less | beyond
      · exact (missed other less).2 fits
      · exact absurd (linked_isNull_of_le beyond null)
          (Bool.eq_false_iff.mp (intact.isNull_of_fits fits))
    | corrupt => cases ended
  · rintro ⟨⟨distance, null⟩, none⟩
    cases searched with
    | found _ fits _ => exact absurd fits (none _)
    | ended => rfl
    | corrupt some _ =>
      obtain ⟨near, far, less, inside, same⟩ := intact.exists_repeat some
      have round := linked_isNull_of_repeat less same
        (linked_isNull_of_ge (less.trans inside).le some) distance
      exact absurd null (Bool.eq_false_iff.mp round)

/-- A search is refused on a bucket that goes round in a circle and has no shape that fits. -/
theorem Searched.corrupt_iff (searched : Searched heap proto bucket heap.chainLimit answer)
    (intact : heap.Intact) :
    answer = .error (.refused .shapeChainCorrupt) ↔
      (∃ near far, near < far ∧ heap.linked bucket near = heap.linked bucket far ∧
        (heap.linked bucket near).isNull = false) ∧
      ∀ distance, ¬ heap.Fits proto (heap.linked bucket distance) := by
  constructor
  · intro refused
    cases searched with
    | found => cases refused
    | ended => cases refused
    | corrupt some missed =>
      obtain ⟨near, far, less, inside, same⟩ := intact.exists_repeat some
      refine ⟨⟨near, far, less, same, linked_isNull_of_ge (less.trans inside).le some⟩,
        fun distance => ?_⟩
      obtain ⟨before, early, met⟩ := exists_linked_of_repeat less same distance
      rw [← met]
      exact (missed before (early.trans inside)).2
  · rintro ⟨⟨near, far, less, same, some⟩, none⟩
    cases searched with
    | found _ fits _ => exact absurd fits (none _)
    | @ended distance null _ =>
      exact absurd null (Bool.eq_false_iff.mp (linked_isNull_of_repeat less same some distance))
    | corrupt => rfl

end Bound

/-! ## 5. Any heap -/

/-- Whatever was stored in its shapes, and wherever their links lead: the search for the shape of a
prototype looks at the shapes of its bucket in their order, at one more than there are live records
at most. It finds the first that fits, which is a live shape with that prototype and no properties.
Where none fits it finds none if the bucket ends, and is refused if it goes round in a circle. A
shape is not made then. -/
theorem search_of_reached {config : Config} {requested : Nat}
    (reached : Reached config requested heap) (proto : Handle) :
    let met := heap.linked (heap.bucketOf proto.shapeHash)
    let search := heap.findShape proto
    (∃ looked ≤ heap.handles.live + 1, ∃ ending : Report Stop (Option Handle),
      (ending = pure none ∨ ending = Report.refuse .shapeChainCorrupt) ∧
        search = heap.lookThrough proto ending ((List.range looked).map met)) ∧
      (∀ shape, ∃ found, (heap.shapeMatches shape proto).answer = .ok found ∧
        (found = true ↔ heap.Fits proto shape)) ∧
      (∀ shape, heap.Fits proto shape → heap.kind? shape = some .shape ∧
        (heap.tryGet shape ShapeField.proto).answer = .ok proto ∧
        (heap.tryGet shape ShapeField.propCount).answer = .ok 0) ∧
      (∀ shape, search.answer = .ok (some shape) ↔
        ∃ distance, met distance = shape ∧ heap.Fits proto shape ∧
          ∀ nearer < distance, ¬ heap.Fits proto (met nearer)) ∧
      (search.answer = .ok none ↔
        (∃ distance, (met distance).isNull = true) ∧ ∀ distance, ¬ heap.Fits proto (met distance)) ∧
      (search.answer = .error (.refused .shapeChainCorrupt) ↔
        (∃ near far, near < far ∧ met near = met far ∧ (met near).isNull = false) ∧
          ∀ distance, ¬ heap.Fits proto (met distance)) ∧
      (∀ stop, search.answer = .error stop → stop = .refused .shapeChainCorrupt ∧
        internShape proto heap = ⟨.error stop, heap, search.events⟩) := by
  intro met search
  have intact := intact_of_reached reached
  have searched : Searched heap proto (heap.bucketOf proto.shapeHash) heap.chainLimit
      search.answer :=
    intact.searched proto (Nat.zero_add _) fun nearer less => absurd less (Nat.not_lt_zero nearer)
  refine ⟨?_, fun shape => intact.answer_shapeMatches shape proto,
    fun shape => intact.live_of_fits, searched.found_iff intact, searched.ended_iff intact,
    searched.corrupt_iff intact, fun stop failed => ⟨?_, ?_⟩⟩
  · obtain ⟨looked, few, ending, ends, same⟩ := intact.legible.findFrom_eq_lookThrough proto
      (heap.bucketOf proto.shapeHash) heap.chainLimit 0
    rw [← List.range_eq_range'] at same
    exact ⟨looked, few, ending, ends, same⟩
  · generalize search.answer = answer at searched failed
    cases searched with
    | found => cases failed
    | ended => cases failed
    | corrupt => exact (Except.error.inj failed).symm
  · rcases report : heap.findShape proto with ⟨answer, events⟩
    have failed : (heap.findShape proto).answer = .error stop := failed
    rw [report] at failed
    cases failed
    rw [internShape, look_bind_of_error (Heap.findShape · proto) report]
    exact congrArg (Outcome.mk _ heap) (congrArg Report.events report).symm

/-- A shape that was made to follow itself and given a property. The search for a shape without
properties is refused, and none is made. -/
theorem search_small :
    let heap := newSmall.run [.internShape .null, .set ⟨1, 0⟩ ShapeField.hashNext ⟨1, 0⟩,
      .set ⟨1, 0⟩ ShapeField.propCount 1]
    (heap.findShape .null).answer = .error (.refused .shapeChainCorrupt) ∧
      (internShape .null heap).answer = .error (.refused .shapeChainCorrupt) ∧
      (internShape .null heap).state = heap := by
  intro heap
  have reached : Reached { arenaCapacity := 1024 } _ heap := reached_run (.new new_small) _
  -- All that is computed of the heap.
  obtain ⟨first, again, other⟩ :
      heap.linked (heap.bucketOf Handle.null.shapeHash) 0 = ⟨1, 0⟩ ∧
        heap.linked (heap.bucketOf Handle.null.shapeHash) 1 = ⟨1, 0⟩ ∧
        (heap.get ⟨1, 0⟩ ShapeField.propCount).answer.toOption = some 1 := by
    decide +kernel
  clear_value heap
  obtain ⟨-, -, -, -, -, corrupt, refused⟩ := search_of_reached reached .null
  have none (distance : Nat) :
      ¬ heap.Fits .null (heap.linked (heap.bucketOf Handle.null.shapeHash) distance) := by
    intro fits
    obtain ⟨before, early, met⟩ :=
      exists_linked_of_repeat Nat.zero_lt_one (first.trans again.symm) distance
    cases Nat.lt_one_iff.mp early
    rw [← met, first] at fits
    rw [fits.propCount] at other
    cases other
  have failed := corrupt.mpr ⟨⟨0, 1, Nat.zero_lt_one, first.trans again.symm, first ▸ rfl⟩, none⟩
  have unmade := (refused _ failed).2
  exact ⟨failed, by rw [unmade], by rw [unmade]⟩

end Heap

end HandleHeap
