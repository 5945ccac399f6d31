import HandleHeap.Proofs.Element.Pushing
import HandleHeap.Proofs.Heap.Refusal

/-!
# What a refused push leaves

A push attaches an element array to an object that has none, grows one that is full, and then stores
the element. Each part may be refused, and what was done before it is not taken back.

* `Attaching.altered`, `Sound.stored_unaltered_iff`: an array that was attached stays when the
  element is refused, and one that was grown stays grown.
* `push_unaltered_iff`: a refused push leaves the records as they were if and only if the object is
  not `Outgrown`. The count of such an object was written beyond its capacity, for a push counts no
  more elements than there is room for.
-/

namespace HandleHeap.Heap

open HandleHeap.Action

variable {heap : Heap} {object array : Handle} {record bytes : List UInt8}

/-! ## 1. Records as they were -/

/-- Every handle is live or not, of its kind and pinned or not as before, and has the same bytes. -/
structure Unaltered (before after : Heap) : Prop where
  live : ∀ handle, after.isLive handle = before.isLive handle
  kind : ∀ handle, after.kind? handle = before.kind? handle
  pinned : ∀ handle, after.isPinned handle = before.isPinned handle
  bytes : ∀ handle, after.bytes? handle = before.bytes? handle

theorem Unaltered.refl (heap : Heap) : Unaltered heap heap :=
  ⟨fun _ => rfl, fun _ => rfl, fun _ => rfl, fun _ => rfl⟩

theorem unaltered_of_labels {after : Heap}
    (same : ∀ handle, after.labels.resolve handle = heap.labels.resolve handle ∧
      after.bytes? handle = heap.bytes? handle) : Unaltered heap after where
  live handle := by
    rw [← isLive_labels, ← isLive_labels]
    exact HandleTable.isLive_congr (same handle).1
  kind handle := by
    rw [← kind?_view, ← kind?_view]
    exact congrArg (Option.map Label.kind) (same handle).1
  pinned handle := by rw [isPinned_labels, isPinned_labels, (same handle).1]
  bytes handle := (same handle).2

/-- Asking for space alters no record. -/
theorem unaltered_of_asked {after : Heap} {size : Nat} (view : after.view = heap.asked size) :
    Unaltered heap after :=
  unaltered_of_labels fun handle =>
    ⟨congrArg (·.labels.resolve handle) view, congrArg (·.bytes handle) view⟩

/-! ## 2. A refused push -/

/-- The count of an object is beyond the capacity that a push would bring it to, and there is space
for the element array that the push attaches or grows. -/
structure Outgrown (heap : Heap) (object : Handle) : Prop where
  beyond : grownCapacity (heap.view.elementCapacity object) ≤ (heap.view.count object).toNat
  longer : (heap.view.elementCapacity object).toNat < grownCapacity (heap.view.elementCapacity object)
  attached : (heap.view.elements object).isNull = true →
    (allocElements initialElementCapacity heap).answer.isOk = true
  grown : (heap.view.elements object).isNull = false →
    (growRecord (heap.view.elements object) .elementArray
      (grownCapacity (heap.view.elementCapacity object) * Value.size) heap).answer.isOk = true

/-- No object is outgrown that counts no more elements than it has room for. -/
theorem Outgrown.lt_count (outgrown : heap.Outgrown object) :
    heap.view.elementCapacity object < heap.view.count object :=
  UInt32.lt_iff_toNat_lt.mpr (Nat.lt_of_lt_of_le outgrown.longer outgrown.beyond)

theorem four_le_grownCapacity (capacity : UInt32) : 4 ≤ grownCapacity capacity :=
  Nat.le_max_right ..

/-- What is no object has no count. -/
theorem not_outgrown_of_missing {stop : Stop}
    (none : heap.view.contents object Layout.object.kind = .error stop) :
    ¬ heap.Outgrown object := by
  intro outgrown
  have beyond := outgrown.beyond
  have zero : heap.view.count object = 0 := by
    rw [View.count, View.field, none]
    rfl
  rw [zero] at beyond
  exact absurd (Nat.le_trans (four_le_grownCapacity _) beyond) (by decide)

/-- The count was beyond a first element array, which stays attached and has no element. -/
theorem Attaching.altered {middle : Heap} (attaching : Attaching object record heap middle (.ok array))
    (sound : heap.Sound) (known : heap.view.contents object .object = .ok record)
    (null : (ObjectField.arrayValues.read record).isNull = true) {value : Value Handle} {stop : Stop}
    (refused : (storeElement object array (ObjectField.arrayCount.read record) value
      middle).answer = .error stop) :
    heap.Outgrown object ∧ ¬ Unaltered heap (storeElement object array
      (ObjectField.arrayCount.read record) value middle).state := by
  have null : (heap.view.elements object).isNull = true :=
    (congrArg Handle.isNull (elements_of_contents known)).trans null
  have none : heap.view.elementCapacity object = 0 := capacity_of_null null
  cases attaching with
  | attached made dead sound' own elements =>
    have points := arrayValues_attached (sound.length_record known) array
    have storing := sound'.storeElement own points elements (ObjectField.arrayCount.read record) value
    rw [refused, List.length_replicate] at storing
    refine ⟨⟨?_, ?_, fun _ => by rw [made]; rfl, fun attached => ?_⟩, fun unaltered => ?_⟩
    · rw [none, count_of_contents known]
      cases storing with
      | full full => exact UInt32.le_iff_toNat_le.mp full
      | beyond beyond => exact Nat.le_trans (four_le_grownCapacity _) beyond
    · rw [none]
      decide
    · rw [null] at attached
      cases attached
    -- The array is live although its handle named nothing before.
    · have live : (storeElement object array (ObjectField.arrayCount.read record) value
          middle).state.kind? array = some .elementArray := by
        have made := (contents_eq_ok elements).1
        cases storing with
        | full _ _ view => exact ((unaltered_of_asked view).kind array).trans made
        | beyond _ _ view =>
          rw [← kind?_view, view, ← made]
          exact kind?_view array
      rw [unaltered.kind, kind?, dead] at live
      cases live

/-- The element array that an object has is longer afterwards if the count is beyond it then. -/
theorem Sound.stored_unaltered_iff (sound : heap.Sound)
    (known : heap.view.contents object .object = .ok record)
    (elements : heap.view.contents (ObjectField.arrayValues.read record) .elementArray = .ok bytes)
    {value : Value Handle} {stop : Stop}
    (refused : (Heap.storeElement object (ObjectField.arrayValues.read record)
      (ObjectField.arrayCount.read record) value heap).answer = .error stop) :
    Unaltered heap (Heap.storeElement object (ObjectField.arrayValues.read record)
      (ObjectField.arrayCount.read record) value heap).state ↔ ¬ heap.Outgrown object := by
  obtain ⟨-, size, whole⟩ := sound.cells_of_array elements
  have live := ne_null_of_kind? (contents_eq_ok elements).1
  have capacity := elementCapacity_of_contents known elements
  have points := elements_of_contents known
  obtain ⟨stored, read, -⟩ := sound.bytes?_of_kind (contents_eq_ok elements).1
  have same : stored = bytes := by
    have held := (contents_eq_ok elements).2
    rwa [read] at held
  subst same
  have storing := sound.storeElement known rfl elements (ObjectField.arrayCount.read record) value
  rw [refused, ← capacity] at storing
  rw [← capacity] at size
  cases storing with
  | full full ungrown view =>
    refine iff_of_true (unaltered_of_asked view) fun outgrown => ?_
    have grown := outgrown.grown (points ▸ live)
    rw [points, ungrown] at grown
    cases grown
  | beyond beyond grown view =>
    rcases Nat.lt_or_ge (heap.view.elementCapacity object).toNat
      (grownCapacity (heap.view.elementCapacity object)) with longer | most
    · refine iff_of_false (fun unaltered => ?_) (not_not.mpr ⟨count_of_contents known ▸ beyond, longer,
        fun null => ?_, fun _ => by rw [points, grown]; rfl⟩)
      · have kept := unaltered.bytes (ObjectField.arrayValues.read record)
        have now := (congrArg (·.bytes (ObjectField.arrayValues.read record)) view).trans
          (if_pos rfl)
        have length := congrArg List.length (Option.some.inj (now.symm.trans (kept.trans read)))
        rw [length_fitted, ← whole, ← size] at length
        exact absurd (Nat.eq_of_mul_eq_mul_right (by decide) length) (Nat.ne_of_gt longer)
      · rw [points, live] at null
        cases null
    -- An array of as many cells as can be counted is moved and has the bytes that it had.
    · refine iff_of_true ?_ fun outgrown => absurd outgrown.longer (Nat.not_lt.mpr most)
      have cells : grownCapacity (heap.view.elementCapacity object) * Value.size = stored.length := by
        rw [Nat.le_antisymm most (le_grownCapacity _), size, whole]
      rw [cells, fitted_same] at view
      exact unaltered_of_asked (view.trans (withBytes_same read))

/-- A refused push leaves the records as they were unless the object is outgrown. -/
theorem Sound.pushElement_refused (sound : heap.Sound) (accounted : heap.handles.Accounted)
    {value : Value Handle} {error : HeapError}
    (refused : (pushElement object value heap).answer = .error (.refused error)) :
    Unaltered heap (pushElement object value heap).state ↔ ¬ heap.Outgrown object := by
  have pushing := sound.pushing accounted object value
  rw [refused] at pushing
  generalize (pushElement object value heap).state = after at pushing ⊢
  generalize told : Except.error (Stop.refused error) = answer at pushing
  cases pushing with
  | missing none => exact iff_of_true (.refl heap) (not_outgrown_of_missing none)
  | unattached known null attaching =>
    cases attaching with
    | refused made same =>
      refine iff_of_true (unaltered_of_labels same) fun outgrown => ?_
      have space := outgrown.attached (elements_of_contents known ▸ null)
      rw [made] at space
      cases space
  | attached known null attaching =>
    obtain ⟨outgrown, altered⟩ := attaching.altered sound known null told.symm
    exact iff_of_false altered (not_not.mpr outgrown)
  | stored known some elements => exact sound.stored_unaltered_iff known elements told.symm
  | astray known some none =>
    refine iff_of_true (.refl heap) fun outgrown => ?_
    have points := elements_of_contents known
    have grown := outgrown.grown (points ▸ some)
    rw [← points] at none
    obtain ⟨events, missing⟩ := growRecord_of_missing none
      (grownCapacity (heap.view.elementCapacity object) * Value.size)
    rw [missing] at grown
    cases grown

/-- A refused push leaves the buckets, the roots and the state of the arena as they were apart from
the bump offset. It leaves every record as it was if and only if the object is not outgrown, which
it is not as long as it counts no more elements than it has room for. -/
theorem push_unaltered_iff {config : Config} {requested : Nat}
    (reached : Reached config requested heap) (few : requested < sizeLimit) (object : Handle)
    (value : Value Handle) {error : HeapError}
    (refused : (pushElement object value heap).answer = .error (.refused error)) :
    Beside heap (pushElement object value heap).state ∧
      (Unaltered heap (pushElement object value heap).state ↔ ¬ heap.Outgrown object) ∧
      ∀ count capacity, (heap.get object ObjectField.arrayCount).answer = .ok count →
        (heap.elementCapacity object).answer = .ok capacity → count ≤ capacity →
          Unaltered heap (pushElement object value heap).state := by
  obtain ⟨sound, -⟩ := (tracked_of_reached reached).sound few
  have accounted := accounted_of_reached reached
  have keeps : (pushElement object value).Keeps Beside := keeps_pushElement object value
  have unaltered := sound.pushElement_refused accounted refused
  refine ⟨keeps.step heap, unaltered, fun count capacity counted room within => ?_⟩
  refine unaltered.mpr fun outgrown => ?_
  cases Except.ok.inj (counted.symm.trans (sound.answer_get object ObjectField.arrayCount))
  cases Except.ok.inj (room.symm.trans (sound.answer_elementCapacity object))
  exact UInt32.not_lt.mpr within outgrown.lt_count

/-- An object without elements whose count was written. -/
def miscounted : List (Operation Handle) :=
  [.allocObject .null 0, .set ⟨1, 0⟩ ObjectField.arrayCount 8]

/-- A push to it is refused after its element array was attached and grown. -/
theorem push_unaltered_small :
    let requested := (runCounting 0 newSmall miscounted).1
    let heap := newSmall.run miscounted
    let after := (pushElement ⟨1, 0⟩ .null heap).state
    Reached { arenaCapacity := 1024 } requested heap ∧ requested < sizeLimit ∧
      (pushElement ⟨1, 0⟩ .null heap).answer = .error (.refused (.indexOutOfBounds 8 8)) ∧
      Beside heap after ∧ (Unaltered heap after ↔ ¬ heap.Outgrown ⟨1, 0⟩) := by
  have reached : Reached { arenaCapacity := 1024 } (runCounting 0 newSmall miscounted).1
      (newSmall.run miscounted) := reached_run (.new new_small) miscounted
  have run : (runCounting 0 newSmall miscounted).1 < sizeLimit ∧
      (pushElement ⟨1, 0⟩ .null (newSmall.run miscounted)).answer =
        .error (.refused (.indexOutOfBounds 8 8)) := by decide +kernel
  have kept := push_unaltered_iff reached run.1 ⟨1, 0⟩ .null run.2
  exact ⟨reached, run.1, run.2, kept.1, kept.2.1⟩

/-- The element array of that push stays live and attached, with the capacity that it was grown
to, and the object is marked as a fast array. -/
theorem altered_by_refused_push :
    let heap := newSmall.run miscounted
    let out := pushElement ⟨1, 0⟩ .null heap
    Reached { arenaCapacity := 1024 } (runCounting 0 newSmall miscounted).1 heap ∧
      out.answer = .error (.refused (.indexOutOfBounds 8 8)) ∧
      (heap.isLive ⟨2, 0⟩ = false ∧ out.state.isLive ⟨2, 0⟩ = true) ∧
      ((heap.elementCapacity ⟨1, 0⟩).answer = .ok 0 ∧
        (out.state.elementCapacity ⟨1, 0⟩).answer = .ok 8) ∧
      ((heap.get ⟨1, 0⟩ ObjectField.fastArray).answer = .ok false ∧
        (out.state.get ⟨1, 0⟩ ObjectField.fastArray).answer = .ok true) ∧
      ¬ Unaltered heap out.state := by
  have run : (pushElement ⟨1, 0⟩ .null (newSmall.run miscounted)).answer =
        .error (.refused (.indexOutOfBounds 8 8)) ∧
      ((newSmall.run miscounted).isLive ⟨2, 0⟩ = false ∧
        (pushElement ⟨1, 0⟩ .null (newSmall.run miscounted)).state.isLive ⟨2, 0⟩ = true) ∧
      (((newSmall.run miscounted).elementCapacity ⟨1, 0⟩).answer = .ok 0 ∧
        ((pushElement ⟨1, 0⟩ .null (newSmall.run miscounted)).state.elementCapacity
          ⟨1, 0⟩).answer = .ok 8) ∧
      (((newSmall.run miscounted).get ⟨1, 0⟩ ObjectField.fastArray).answer = .ok false ∧
        ((pushElement ⟨1, 0⟩ .null (newSmall.run miscounted)).state.get ⟨1, 0⟩
          ObjectField.fastArray).answer = .ok true) := by decide +kernel
  refine ⟨reached_run (.new new_small) miscounted, run.1, run.2.1, run.2.2.1, run.2.2.2,
    fun unaltered => ?_⟩
  exact Bool.false_ne_true
    ((run.2.1.1.symm.trans (unaltered.live ⟨2, 0⟩).symm).trans run.2.1.2)

end HandleHeap.Heap
