import HandleHeap.Proofs.Shape.Linking
import HandleHeap.Proofs.Shape.Sessions

/-!
# The count of the shapes in buckets

The count is kept apart from the links, and the links may be overwritten. Along with a run goes a
tally of the shapes that its operations put into buckets and take out of them (`Tally`).

* `counted_run`: however the links are overwritten, the count is what was put in less what was taken
  out.
* `underflow_iff_of_run`: hence a shape is taken out at a count of zero, which is a fault, exactly if
  it is marked, the links of its bucket lead to it, and as many were taken out as were put in. That
  happens once a link was made to lead to a shape that was never put in, and does not happen in an
  orderly session.
-/

namespace HandleHeap

open HandleHeap.Action Heap

/-! ## 1. The tally -/

namespace Operation

/-- How many shapes an operation puts into buckets. -/
def puts (heap : Heap) : Operation Handle → Nat
  | hashShape shape =>
    match (heap.tryGet shape ShapeField.isHashed).answer with
    | .ok false => 1
    | _ => 0
  | internShape proto =>
    match (heap.findShape proto).answer, (Heap.internShape proto heap).answer with
    | .ok none, .ok _ => 1
    | _, _ => 0
  | _ => 0

/-- How many shapes an operation takes out of buckets. -/
def takes (heap : Heap) : Operation Handle → Nat
  | unhashShape shape | invalidate shape =>
    match (Heap.unhashShape shape heap).answer with
    | .ok true => 1
    | _ => 0
  | _ => 0

end Operation

namespace Heap

/-- How many shapes were put into buckets, and how many taken out, since they were last cleared. -/
structure Tally where
  put : Nat
  taken : Nat

/-- The tally after one more operation. -/
def Tally.add (tally : Tally) (heap : Heap) (operation : Operation Handle) : Tally :=
  if operation.rewinds then ⟨0, 0⟩
  else ⟨tally.put + operation.puts heap, tally.taken + operation.takes heap⟩

/-- The tally of a run. -/
def tally : Heap → Tally → List (Operation Handle) → Tally
  | _, counts, [] => counts
  | heap, counts, operation :: rest =>
    tally (operation.perform heap).state (counts.add heap operation) rest

variable {heap : Heap}

/-! ## 2. One operation -/

instance : KeptByRecords fun before after : Heap => after.buckets = before.buckets where
  refl _ := rfl
  trans first second := second.trans first
  roots _ _ := rfl
  request _ _ := rfl
  content _ _ _ _ := rfl
  handles _ _ := rfl

theorem Sound.counted_hashShape (sound : heap.Sound) (shape : Handle) :
    (hashShape shape heap).state.buckets.hashed =
      heap.buckets.hashed + (Operation.hashShape shape).puts heap := by
  simp only [Operation.puts]
  by_cases marked : ∀ bytes, heap.view.contents shape .shape = .ok bytes →
      ShapeField.isHashed.read bytes = true
  · rw [(sound.hashShape_idle marked).1, sound.answer_tryGet]
    cases known : heap.view.contents shape Layout.shape.kind with
    | error stop => rfl
    | ok bytes =>
      simp only [Except.map]
      rw [marked bytes known]
      rfl
  · obtain ⟨bytes, known, unmarked⟩ : ∃ bytes, heap.view.contents shape .shape = .ok bytes ∧
        ShapeField.isHashed.read bytes = false := by
      simpa using marked
    obtain ⟨after, run, -, view⟩ := sound.hashShape_eq known unmarked
    rw [run, sound.tryGet_eq_pure known ShapeField.isHashed, unmarked]
    exact congrArg (fun view : View => view.buckets.hashed) view

theorem Sound.counted_internShape (sound : heap.Sound) (proto : Handle) :
    (Heap.internShape proto heap).state.buckets.hashed =
      heap.buckets.hashed + (Operation.internShape proto).puts heap := by
  simp only [Operation.puts]
  rcases searched : heap.findShape proto with ⟨stop | found, events⟩
  · rw [Heap.internShape, look_bind_of_error (Heap.findShape · proto) searched]
    rfl
  · have run := look_apply (Heap.findShape · proto) searched
    rw [Heap.internShape, answer_bind_of_ok run, state_bind_of_ok run]
    cases found with
    | some shape => rfl
    | none =>
      have made := Sound.allocShape sound proto initialPropSize
      have kept := made.buckets
      simp only
      rcases run : Heap.allocShape proto initialPropSize heap with ⟨stop | shape, middle, events'⟩ <;>
        rw [run] at made kept
      · rw [bind_apply_of_error run]
        exact congrArg ShapeBuckets.hashed kept
      · obtain ⟨after, hashed, -, view⟩ :=
          Sound.hashShape_eq made.sound made.contents (isHashed_newShape ..)
        rw [answer_bind_of_ok run, state_bind_of_ok run, answer_bind_of_ok hashed,
          state_bind_of_ok hashed]
        have count : after.buckets.hashed = middle.buckets.hashed + 1 :=
          congrArg (fun view : View => view.buckets.hashed) view
        exact count.trans (congrArg (·.hashed + 1) kept)

theorem Sound.counted_unhashShape (sound : heap.Sound) (shape : Handle) :
    (unhashShape shape heap).state.buckets.hashed + (Operation.unhashShape shape).takes heap =
      heap.buckets.hashed := by
  have unhashed := sound.unhashed shape
  simp only [Operation.takes]
  generalize (unhashShape shape heap).answer = answer, (unhashShape shape heap).state = after
    at unhashed ⊢
  cases unhashed with
  | refused _ same | unmarked _ _ same =>
    rw [same]
    rfl
  | unlinked _ _ some _ count => exact (congrArg (· + 1) count).trans (Nat.sub_add_cancel some)
  | underflow _ _ zero count => exact count.trans zero.symm

/-- Ending a record leaves the buckets as taking it out of its bucket does, and is a fault where that
is one. -/
theorem Sound.buckets_invalidate (sound : heap.Sound) (accounted : heap.handles.Accounted)
    (handle : Handle) :
    (Heap.invalidate handle heap).state.buckets = (unhashShape handle heap).state.buckets ∧
      ∀ fault, (Heap.invalidate handle heap).answer = .error (.fault fault) ↔
        (unhashShape handle heap).answer = .error (.fault fault) := by
  have kept : (unhashShape handle).Keeps fun before after : Heap =>
      before.handles.Accounted → after.handles.Accounted := keeps_unhashShape handle
  obtain ⟨live, ended⟩ := exists_answer_end (kept.step heap accounted) handle
  have invalidated := sound.invalidated handle
  generalize (Heap.invalidate handle heap).answer = answer,
    (Heap.invalidate handle heap).state = after at invalidated ⊢
  cases invalidated with
  | fault stopped => exact ⟨rfl, fun fault => by rw [stopped]⟩
  | ended faultless =>
    rw [ended]
    refine ⟨rfl, fun fault => ⟨fun same => ?_, fun stopped => absurd stopped (faultless fault)⟩⟩
    cases same

/-- What an operation puts into buckets is added to the count, and what it takes out is taken off. -/
theorem Sound.counted_perform (sound : heap.Sound) (accounted : heap.handles.Accounted)
    (operation : Operation Handle) (onward : operation.rewinds = false) :
    (operation.perform heap).state.buckets.hashed + operation.takes heap =
      heap.buckets.hashed + operation.puts heap := by
  have apart (apart : operation.changesBuckets = false) :
      (operation.perform heap).state.buckets.hashed = heap.buckets.hashed := by
    have kept : operation.perform.Keeps fun before after : Heap => after.buckets = before.buckets :=
      Operation.keeps_perform_apart operation apart
    exact congrArg ShapeBuckets.hashed (kept.step heap)
  cases operation with
  | hashShape shape =>
    have count := sound.counted_hashShape shape
    rwa [← state_bind_pure (hashShape shape) fun _ => Answer.done] at count
  | internShape proto =>
    have count := sound.counted_internShape proto
    rwa [← state_bind_pure (Heap.internShape proto) Answer.handle] at count
  | unhashShape shape =>
    have count := sound.counted_unhashShape shape
    rwa [← state_bind_pure (unhashShape shape) Answer.flag] at count
  | invalidate shape =>
    have count := sound.counted_unhashShape shape
    rw [← (sound.buckets_invalidate accounted shape).1] at count
    rwa [← state_bind_pure (Heap.invalidate shape) Answer.flag] at count
  | reset | teardown => cases onward
  | _ => exact apart rfl

theorem hashed_rewind {operation : Operation Handle} (rewinds : operation.rewinds = true) :
    (operation.perform heap).state.buckets.hashed = 0 := by
  cases operation with
  | reset => rfl
  | teardown => rw [state_teardown]; rfl
  | _ => cases rewinds

/-! ## 3. A run -/

theorem tally_eq_follow (counts : Tally) (operations : List (Operation Handle)) :
    heap.tally counts operations =
      heap.follow (fun heap counts operation => counts.add heap operation) counts operations := by
  induction operations generalizing heap counts with
  | nil => rfl
  | cons operation rest ih => exact ih ..

theorem counted_run {requested : Nat} {counts : Tally} (tracked : heap.Tracked requested)
    (accounted : heap.handles.Accounted)
    (counted : requested < sizeLimit → heap.buckets.hashed + counts.taken = counts.put)
    (operations : List (Operation Handle))
    (few : (runCounting requested heap operations).1 < sizeLimit) :
    (heap.run operations).buckets.hashed + (heap.tally counts operations).taken =
      (heap.tally counts operations).put := by
  rw [tally_eq_follow]
  refine holds_of_run
    (fun heap (counts : Tally) => heap.buckets.hashed + counts.taken = counts.put)
    (fun heap counts operation rewinds => ?_)
    (fun {heap counts} operation sound accounted onward counted => ?_) tracked accounted counted
    operations few
  · rw [Tally.add, rewinds]
    exact hashed_rewind rewinds
  · have step := sound.counted_perform accounted operation onward
    rw [Tally.add, onward]
    simp only [Bool.false_eq_true, if_false]
    omega

theorem hashed_iff (shape : Handle) : heap.hashed shape = true ↔
    (heap.tryGet shape ShapeField.isHashed).answer = .ok true := by
  unfold hashed
  rcases (heap.tryGet shape ShapeField.isHashed).answer with stop | marked
  · simp [Except.toOption]
  · cases marked <;> simp [Except.toOption]

/-- A shape is taken out at a count of zero if it is marked and its links lead to it. -/
theorem Sound.underflow_iff (sound : heap.Sound) (shape : Handle) :
    (unhashShape shape heap).answer = .error (.fault .hashedCountUnderflow) ↔
      heap.hashed shape = true ∧ heap.Findable shape ∧ heap.buckets.hashed = 0 := by
  have unhashed := sound.unhashed shape
  rw [hashed_iff]
  constructor
  · intro stopped
    rw [stopped] at unhashed
    cases unhashed with
    | underflow marked found zero _ => exact ⟨marked, found, zero⟩
  · rintro ⟨marked, found, zero⟩
    generalize (unhashShape shape heap).answer = answer, (unhashShape shape heap).state = after
      at unhashed ⊢
    cases unhashed with
    | refused cause _ =>
      rcases cause with ⟨-, lost⟩ | other
      · exact absurd found lost
      · rw [sound.answer_tryGet, show heap.view.contents shape Layout.shape.kind = _ from other]
          at marked
        cases marked
    | unmarked _ unmarked _ =>
      rw [marked] at unmarked
      cases unmarked
    | unlinked _ _ some _ _ => exact absurd zero (Nat.ne_of_gt some)
    | underflow => rfl

/-- An interned shape is counted. -/
theorem InOrder.hashed_pos {config : Config} {shapes : List Handle}
    (order : InOrder config heap shapes) {shape : Handle} (marked : heap.hashed shape = true) :
    0 < heap.buckets.hashed := by
  have interned : heap.buckets.Interned heap.view.link? shapes := order.interned
  rw [order.sound.hashed_eq, ← interned.linked] at marked
  rw [interned.count]
  exact List.length_pos_of_mem marked

/-- After any run, a shape is taken out of its bucket, by itself or before it is ended, at a count of
zero exactly if it is marked, the links of its bucket lead to it, and as many shapes were taken out
since the buckets were last cleared as were put in. In an orderly session that is never so. -/
theorem underflow_iff_of_run {grants : Nat → Bool} {config : Config} {start : Heap}
    (made : (Heap.new grants config).answer = .ok start) (operations : List (Operation Handle))
    (few : (runCounting 0 start operations).1 < sizeLimit) :
    let heap := start.run operations
    let counts := start.tally ⟨0, 0⟩ operations
    heap.stats.hashedShapes + counts.taken = counts.put ∧
      (∀ shape, ((unhashShape shape heap).answer = .error (.fault .hashedCountUnderflow) ↔
          heap.hashed shape = true ∧ heap.Findable shape ∧ counts.taken = counts.put) ∧
        ((Heap.invalidate shape heap).answer = .error (.fault .hashedCountUnderflow) ↔
          heap.hashed shape = true ∧ heap.Findable shape ∧ counts.taken = counts.put)) ∧
      (start.Orderly 0 operations → ∀ shape, heap.hashed shape = true →
        counts.taken < counts.put) := by
  intro heap counts
  have reached : Reached config _ heap := reached_run (.new made) operations
  obtain ⟨sound, -⟩ := (tracked_of_reached reached).sound few
  have counted : heap.buckets.hashed + counts.taken = counts.put := by
    refine counted_run (tracked_new made) (accounted_of_reached (.new made)) (fun _ => ?_)
      operations few
    rw [(new_eq_ok made).2.2.2.1]
    rfl
  have even : heap.buckets.hashed = 0 ↔ counts.taken = counts.put := by omega
  have underflow (shape : Handle) :
      (unhashShape shape heap).answer = .error (.fault .hashedCountUnderflow) ↔
        heap.hashed shape = true ∧ heap.Findable shape ∧ counts.taken = counts.put := by
    rw [← even]
    exact sound.underflow_iff shape
  refine ⟨counted, fun shape => ⟨underflow shape, ?_⟩, fun orderly shape marked => ?_⟩
  · exact ((sound.buckets_invalidate (accounted_of_reached reached) shape).2 _).trans (underflow shape)
  · have some : 0 < heap.buckets.hashed := (inOrder_of_orderly made orderly).hashed_pos marked
    omega

/-- A session that puts one shape into a bucket, links another one behind it, marks that, and takes it
out, which takes the first one off the count. -/
def relinkingSession : List (Operation Handle) :=
  [.internShape .null, .allocShape .null 0, .set ⟨2, 0⟩ ShapeField.isHashed true,
    .set ⟨1, 0⟩ ShapeField.hashNext ⟨2, 0⟩, .unhashShape ⟨2, 0⟩]

/-- In that session the first shape can be found in its bucket, and the tally is even. -/
theorem underflow_small :
    (runCounting 0 newSmall relinkingSession).1 < sizeLimit ∧
      (newSmall.run relinkingSession).Findable ⟨1, 0⟩ ∧
      (newSmall.tally ⟨0, 0⟩ relinkingSession).taken =
        (newSmall.tally ⟨0, 0⟩ relinkingSession).put := by
  have few : (runCounting 0 newSmall relinkingSession).1 < sizeLimit := by decide +kernel
  have fault : (unhashShape ⟨1, 0⟩ (newSmall.run relinkingSession)).answer =
      .error (.fault .hashedCountUnderflow) := by decide +kernel
  have iff := (underflow_iff_of_run new_small relinkingSession few).2.1 ⟨1, 0⟩
  exact ⟨few, (iff.1.mp fault).2⟩

/-- Taking out the first shape, or ending it, is then a fault. -/
theorem underflow_after_relinking :
    (Heap.new (fun _ => true) { arenaCapacity := 1024 }).answer = .ok newSmall ∧
      (newSmall.run relinkingSession).hashed ⟨1, 0⟩ = true ∧
      (unhashShape ⟨1, 0⟩ (newSmall.run relinkingSession)).answer =
        .error (.fault .hashedCountUnderflow) ∧
      (Heap.invalidate ⟨1, 0⟩ (newSmall.run relinkingSession)).answer =
        .error (.fault .hashedCountUnderflow) :=
  ⟨rfl, by decide +kernel, by decide +kernel, by decide +kernel⟩

end Heap

end HandleHeap
