import HandleHeap.Proofs.Heap.View
import HandleHeap.Proofs.Shape.Chain

/-!
# Shapes whose links may be broken

The hash, the link and the mark of a shape are fields that anyone may overwrite, so the links of a
bucket may lead anywhere. What the operations on buckets come to whatever the links are:

* `Sound.hashShape_eq`: a shape that is not marked is put in front of its bucket and counted;
* `unhashShape_of_marked`: a marked shape is looked for in its bucket and passed over;
* `Unhashed`: a shape is taken out of its bucket and off the count, or the search for it along the
  links is refused and nothing was changed, or the count is at zero already, which is a fault;
* `Sound.invalidated`: a record is ended after it was taken out of its bucket, unless that is a fault
  (`Invalidated`).
-/

namespace HandleHeap.Heap

open HandleHeap.Action

variable {heap : Heap}

theorem Sound.withBuckets (sound : heap.Sound) (buckets : ShapeBuckets) :
    Sound { heap with buckets } :=
  have touches : Touches (fun _ => False) heap { heap with buckets } :=
    sound.sideTables buckets heap.roots
  touches.sound sound

/-! ## 1. Into a bucket -/

theorem Sound.hashShape_eq (sound : heap.Sound) {shape : Handle} {bytes : List UInt8}
    (known : heap.view.contents shape .shape = .ok bytes)
    (unmarked : ShapeField.isHashed.read bytes = false) :
    ∃ after, hashShape shape heap = ⟨.ok (), after, []⟩ ∧ after.Sound ∧
      after.view = { heap.view.withBytes shape (some (ShapeField.isHashed.write true
        (ShapeField.hashNext.write (heap.buckets.head (heap.bucketOf (ShapeField.hash.read bytes)))
          bytes))) with
        buckets := heap.buckets.pushed (ShapeField.hash.read bytes) shape } := by
  have marked := sound.tryGet_eq_pure known ShapeField.isHashed
  have hashed := sound.tryGet_eq_pure known ShapeField.hash
  rw [unmarked] at marked
  let hash := ShapeField.hash.read bytes
  let first := heap.buckets.head (heap.bucketOf hash)
  obtain ⟨linked, setNext, sound', view'⟩ := sound.set_eq known ShapeField.hashNext first
  have known' : linked.view.contents shape .shape =
      .ok (ShapeField.hashNext.write first bytes) := by
    rw [view']
    exact View.contents_withBytes_self _ known _
  obtain ⟨after, setHashed, sound'', view''⟩ := sound'.set_eq known' ShapeField.isHashed true
  have buckets : after.buckets = heap.buckets :=
    (congrArg View.buckets view'').trans (congrArg View.buckets view' :)
  refine ⟨{ after with buckets := after.buckets.pushed hash shape }, ?_,
    sound''.withBuckets _, ?_⟩
  · rw [hashShape, look_bind_of_pure (Heap.tryGet · shape ShapeField.isHashed) marked]
    simp only [Bool.false_eq_true, if_false]
    rw [look_bind_of_pure (Heap.tryGet · shape ShapeField.hash) hashed,
      look_bind_of_pure (fun heap : Heap => pure (heap.buckets.head (heap.bucketOf _))) rfl,
      bind_apply_of_ok setNext, bind_apply_of_ok setHashed]
    rfl
  · show { after.view with buckets := after.buckets.pushed hash shape } = _
    rw [buckets, view'', view', View.withBytes_withBytes]

/-- A shape that is marked stays where it is, and what is no shape is refused. -/
theorem Sound.hashShape_idle (sound : heap.Sound) {shape : Handle}
    (other : ∀ bytes, heap.view.contents shape .shape = .ok bytes →
      ShapeField.isHashed.read bytes = true) :
    (hashShape shape heap).state = heap ∧
      ((hashShape shape heap).answer = .ok () ∧ (∃ bytes, heap.view.contents shape .shape = .ok bytes) ∨
        ∃ error, (hashShape shape heap).answer = .error (.refused error)) := by
  cases known : heap.view.contents shape .shape with
  | error stop =>
    obtain ⟨error, events, rfl, refused⟩ := tryGet_eq_error known ShapeField.isHashed
    rw [hashShape, look_bind_of_error (Heap.tryGet · shape ShapeField.isHashed) refused]
    exact ⟨rfl, .inr ⟨error, rfl⟩⟩
  | ok bytes =>
    have marked := sound.tryGet_eq_pure known ShapeField.isHashed
    rw [other bytes known] at marked
    rw [hashShape, look_bind_of_pure (Heap.tryGet · shape ShapeField.isHashed) marked]
    exact ⟨rfl, .inl ⟨rfl, bytes, rfl⟩⟩

/-! ## 2. Out of a bucket -/

/-- The links of the bucket that the hash of a shape selects lead to the shape, in as many steps as a
search takes at most. -/
def Findable (heap : Heap) (shape : Handle) : Prop :=
  ∃ hash distance, (heap.tryGet shape ShapeField.hash).answer = .ok hash ∧
    distance ≤ heap.chainLimit ∧ heap.linked (heap.bucketOf hash) distance = shape ∧
    ∀ nearer < distance, (heap.linked (heap.bucketOf hash) nearer).isNull = false

/-- What taking a shape out of its bucket comes to. -/
inductive Unhashed (shape : Handle) (heap after : Heap) : Except Stop Bool → Prop
  | refused {error : HeapError} : ((error = .shapeChainCorrupt ∧ ¬ heap.Findable shape) ∨
      heap.view.contents shape .shape = .error (.refused error)) → after = heap →
      Unhashed shape heap after (.error (.refused error))
  | unmarked : heap.kind? shape = some .shape →
      (heap.tryGet shape ShapeField.isHashed).answer = .ok false → after = heap →
      Unhashed shape heap after (.ok false)
  | unlinked : (heap.tryGet shape ShapeField.isHashed).answer = .ok true → heap.Findable shape →
      0 < heap.buckets.hashed → after.Sound →
      after.buckets.hashed = heap.buckets.hashed - 1 → Unhashed shape heap after (.ok true)
  | underflow : (heap.tryGet shape ShapeField.isHashed).answer = .ok true → heap.Findable shape →
      heap.buckets.hashed = 0 → after.buckets.hashed = 0 →
      Unhashed shape heap after (.error (.fault .hashedCountUnderflow))

/-- The link of every shape can be read, if only to be null. -/
def Legible (heap : Heap) : Prop :=
  ∀ shape, (heap.get shape ShapeField.hashNext).answer = .ok (heap.follower shape)

theorem Separated.legible (separated : heap.Separated) : heap.Legible := by
  intro shape
  rw [follower, separated.answer_get]

/-- A search from some way along the links on finds the shape where they come to it in time. -/
theorem Legible.found_iff (legible : heap.Legible) (shape previous : Handle)
    (bucket remaining distance : Nat) :
    (∃ found, (heap.predecessor shape remaining previous (heap.linked bucket distance)).answer =
        .ok found) ↔
      ∃ steps ≤ remaining, heap.linked bucket (distance + steps) = shape ∧
        ∀ nearer < steps, (heap.linked bucket (distance + nearer)).isNull = false := by
  induction remaining generalizing previous distance with
  | zero =>
    unfold predecessor
    constructor
    · rintro ⟨found, search⟩
      split at search
      · next here => exact ⟨0, Nat.le_refl 0, here, fun n less => absurd less (Nat.not_lt_zero n)⟩
      · split at search <;> cases search
    · rintro ⟨steps, few, there, -⟩
      cases Nat.le_zero.mp few
      have here : heap.linked bucket distance = shape := there
      exact ⟨previous, by rw [if_pos here]; rfl⟩
  | succ remaining ih =>
    have read := legible (heap.linked bucket distance)
    have next : heap.linked bucket (distance + 1) =
        heap.follower (heap.linked bucket distance) := rfl
    have later := ih (heap.linked bucket distance) (distance + 1)
    have shift (n : Nat) : distance + 1 + n = distance + (n + 1) := by omega
    simp only [shift] at later
    unfold predecessor
    constructor
    · rintro ⟨found, search⟩
      split at search
      · next here => exact ⟨0, Nat.zero_le _, here, fun n less => absurd less (Nat.not_lt_zero n)⟩
      · split at search
        · cases search
        · next live =>
          rw [Report.answer_bind_of_ok read, ← next] at search
          obtain ⟨steps, few, there, nearer⟩ := later.mp ⟨found, search⟩
          refine ⟨steps + 1, Nat.succ_le_succ few, there, fun n less => ?_⟩
          cases n with
          | zero => exact Bool.eq_false_iff.mpr live
          | succ n => exact nearer n (Nat.lt_of_succ_lt_succ less)
    · rintro ⟨steps, few, there, nearer⟩
      by_cases here : heap.linked bucket distance = shape
      · exact ⟨previous, by rw [if_pos here]; rfl⟩
      · cases steps with
        | zero => exact absurd there here
        | succ steps =>
          have live : (heap.linked bucket distance).isNull = false := nearer 0 (Nat.succ_pos _)
          rw [if_neg here, if_neg (Bool.eq_false_iff.mp live)]
          obtain ⟨found, rest⟩ := later.mpr ⟨steps, Nat.le_of_succ_le_succ few, there,
            fun n less => nearer (n + 1) (Nat.succ_lt_succ less)⟩
          refine ⟨found, ?_⟩
          rw [Report.answer_bind_of_ok read, ← next]
          exact rest

/-- The search for the shape before one along the links of its bucket. -/
theorem Legible.findable_iff (legible : heap.Legible) {shape : Handle} {hash : UInt32}
    (read : (heap.tryGet shape ShapeField.hash).answer = .ok hash) :
    heap.Findable shape ↔ ∃ found, (heap.predecessor shape heap.chainLimit .null
      (heap.buckets.head (heap.bucketOf hash))).answer = .ok found := by
  have found := legible.found_iff shape .null (heap.bucketOf hash) heap.chainLimit 0
  simp only [Nat.zero_add] at found
  refine Iff.trans ⟨?_, ?_⟩ found.symm
  · rintro ⟨hash', distance, read', few, there, nearer⟩
    cases Except.ok.inj (read.symm.trans read')
    exact ⟨distance, few, there, nearer⟩
  · rintro ⟨distance, few, there, nearer⟩
    exact ⟨hash, distance, read, few, there, nearer⟩

theorem Legible.predecessor_eq_error (legible : heap.Legible)
    {shape previous current : Handle} {remaining : Nat} {stop : Stop}
    (h : (heap.predecessor shape remaining previous current).answer = .error stop) :
    stop = .refused .shapeChainCorrupt := by
  induction remaining generalizing previous current with
  | zero =>
    unfold predecessor at h
    split at h
    · cases h
    · split at h <;> exact (Except.error.inj h).symm
  | succ remaining ih =>
    unfold predecessor at h
    split at h
    · cases h
    · split at h
      · exact (Except.error.inj h).symm
      · rw [Report.answer_bind_of_ok (legible current)] at h
        exact ih h

/-- A shape that leads to a live one is itself live. -/
theorem Separated.contents_of_leads (separated : heap.Separated) {shape previous : Handle}
    {bytes : List UInt8} (known : heap.view.contents shape .shape = .ok bytes)
    (leads : heap.follower previous = shape) :
    ∃ old, heap.view.contents previous .shape = .ok old := by
  have read := separated.answer_get previous ShapeField.hashNext
  rw [follower, read] at leads
  cases before : heap.view.contents previous .shape with
  | ok old => exact ⟨old, rfl⟩
  | error stop =>
    have null : heap.view.field previous ShapeField.hashNext = .null := by
      simp only [View.field, show heap.view.contents previous Layout.shape.kind = _ from before]
      rfl
    have none : heap.handles.resolve .null = none := rfl
    obtain ⟨placement, live, -⟩ := kind?_eq_some (contents_eq_ok known).1
    rw [← leads, show heap.view.field previous ShapeField.hashNext = _ from null, none] at live
    cases live

section Steps

variable {shape next previous : Handle} {hash : UInt32}

theorem unhashShape_of_unmarked (unmarked : heap.tryGet shape ShapeField.isHashed = pure false) :
    unhashShape shape heap = ⟨.ok false, heap, []⟩ := by
  rw [unhashShape, look_bind_of_pure (Heap.tryGet · shape ShapeField.isHashed) unmarked]
  rfl

/-- What is before a marked shape is looked for first. -/
theorem unhashShape_of_marked (marked : heap.tryGet shape ShapeField.isHashed = pure true)
    (read : heap.tryGet shape ShapeField.hash = pure hash)
    (leads : heap.tryGet shape ShapeField.hashNext = pure next) :
    unhashShape shape heap = (look (fun heap => heap.predecessor shape heap.chainLimit .null
      (heap.buckets.head (heap.bucketOf hash))) >>= passOver shape hash next) heap := by
  rw [unhashShape_eq, look_bind_of_pure (Heap.tryGet · shape ShapeField.isHashed) marked]
  simp only [if_true]
  rw [look_bind_of_pure (Heap.tryGet · shape ShapeField.hash) read,
    look_bind_of_pure (Heap.tryGet · shape ShapeField.hashNext) leads]

/-- Nothing is before the first shape of a bucket. -/
theorem passOver_first (first : previous.isNull = true) (heap : Heap) :
    passOver shape hash next previous heap =
      unmark shape { heap with buckets := heap.buckets.setHead (heap.bucketOf hash) next } := by
  have headed : onBuckets (fun buckets => buckets.setHead (buckets.bucket hash) next) heap =
      ⟨.ok (), { heap with buckets := heap.buckets.setHead (heap.bucketOf hash) next }, []⟩ := rfl
  unfold passOver
  rw [if_pos first, bind_apply_of_ok headed]
  rfl

theorem passOver_inner (inner : previous.isNull = false) {mended : Heap}
    (run : set previous ShapeField.hashNext next heap = ⟨.ok (), mended, []⟩) :
    passOver shape hash next previous heap = unmark shape mended := by
  unfold passOver
  rw [inner, if_neg Bool.false_ne_true, bind_apply_of_ok run]
  rfl

end Steps

/-- The mark and the link of a shape are taken away before it is counted. -/
theorem Sound.unmark_eq (sound : heap.Sound) {shape : Handle} {bytes : List UInt8}
    (known : heap.view.contents shape .shape = .ok bytes) :
    ∃ cleared, unmark shape heap = uncount cleared ∧ cleared.Sound ∧
      cleared.view = heap.view.withBytes shape
        (some (ShapeField.isHashed.write false (ShapeField.hashNext.write .null bytes))) := by
  obtain ⟨linked, setNext, sound', view'⟩ := sound.set_eq known ShapeField.hashNext .null
  have known' : linked.view.contents shape .shape =
      .ok (ShapeField.hashNext.write .null bytes) := by
    rw [view']
    exact View.contents_withBytes_self _ known _
  obtain ⟨cleared, setHashed, sound'', view''⟩ := sound'.set_eq known' ShapeField.isHashed false
  refine ⟨cleared, ?_, sound'', ?_⟩
  · rw [unmark, bind_apply_of_ok setNext, bind_apply_of_ok setHashed]
    simp only [List.nil_append]
  · rw [view'', view', View.withBytes_withBytes]

/-- A shape is passed over before it is counted. -/
theorem Sound.passOver_cases (sound : heap.Sound) {shape previous : Handle} {bytes : List UInt8}
    (known : heap.view.contents shape .shape = .ok bytes)
    (before : previous.isNull = true ∨ ∃ old, heap.view.contents previous .shape = .ok old)
    (hash : UInt32) (next : Handle) :
    ∃ cleared, cleared.Sound ∧ cleared.buckets.hashed = heap.buckets.hashed ∧
      passOver shape hash next previous heap = uncount cleared := by
  cases first : previous.isNull with
  | true =>
    let skipped := heap.buckets.setHead (heap.bucketOf hash) next
    have kept : View.contents (view { heap with buckets := skipped }) shape .shape = .ok bytes :=
      known
    obtain ⟨cleared, rest, sound', view⟩ := (sound.withBuckets skipped).unmark_eq kept
    exact ⟨cleared, sound', congrArg (fun view : View => view.buckets.hashed) view,
      (passOver_first first heap).trans rest⟩
  | false =>
    obtain ⟨old, before⟩ := before.resolve_left (Bool.eq_false_iff.mp first)
    obtain ⟨mended, run, sound', view'⟩ := sound.set_eq before ShapeField.hashNext next
    obtain ⟨bytes', kept⟩ : ∃ bytes', mended.view.contents shape .shape = .ok bytes' := by
      rw [view', View.contents_withBytes, known]
      split <;> exact ⟨_, rfl⟩
    obtain ⟨cleared, rest, sound'', view''⟩ := sound'.unmark_eq kept
    have marked : cleared.buckets = mended.buckets := congrArg View.buckets view''
    have led : mended.buckets = heap.buckets := congrArg View.buckets view'
    exact ⟨cleared, sound'', congrArg ShapeBuckets.hashed (marked.trans led),
      (passOver_inner first run).trans rest⟩

/-- A count at zero is not taken from. -/
theorem countUnhashed_cases (heap : Heap) :
    (heap.buckets.hashed = 0 ∧
      countUnhashed heap = ⟨.error (.fault .hashedCountUnderflow), heap, []⟩) ∨
    (0 < heap.buckets.hashed ∧
      countUnhashed heap = ⟨.ok (), { heap with
        buckets := { heap.buckets with hashed := heap.buckets.hashed - 1 } }, []⟩) := by
  rcases Nat.eq_zero_or_pos heap.buckets.hashed with zero | positive
  · exact .inl ⟨zero, by rw [countUnhashed, if_pos zero]⟩
  · exact .inr ⟨positive, by rw [countUnhashed, if_neg positive.ne']⟩

/-- Whether a shape is taken off the count depends on the count alone. -/
theorem unhashed_of_count {shape : Handle} {cleared : Heap} (sound : cleared.Sound)
    (hashed : cleared.buckets.hashed = heap.buckets.hashed)
    (marked : (heap.tryGet shape ShapeField.isHashed).answer = .ok true)
    (found : heap.Findable shape) :
    Unhashed shape heap (uncount cleared).state (uncount cleared).answer := by
  unfold uncount
  rcases countUnhashed_cases cleared with ⟨zero, run⟩ | ⟨positive, run⟩
  · rw [bind_apply_of_error run]
    exact .underflow marked found (hashed ▸ zero) zero
  · rw [bind_apply_of_ok run]
    exact .unlinked marked found (hashed ▸ positive) (sound.withBuckets _)
      (congrArg (· - 1) hashed)

/-- What is no shape is not taken out of a bucket. -/
theorem unhashShape_of_other {handle : Handle} (other : heap.kind? handle ≠ some .shape) :
    ∃ error, error ≠ .shapeChainCorrupt ∧ unhashShape handle heap =
      ⟨.error (.refused error), heap, (heap.tryGet handle ShapeField.isHashed).events⟩ := by
  cases known : heap.view.contents handle Layout.shape.kind with
  | ok bytes => exact absurd (contents_eq_ok known).1 other
  | error stop =>
    obtain ⟨error, events, rfl, refused⟩ := tryGet_eq_error known ShapeField.isHashed
    refine ⟨error, fun corrupt => ?_, ?_⟩
    · rw [corrupt, View.contents] at known
      split at known
      · cases known
      · split at known <;> cases known
    · rw [refused, unhashShape,
        look_bind_of_error (Heap.tryGet · handle ShapeField.isHashed) refused]

theorem Sound.unhashed (sound : heap.Sound) (shape : Handle) :
    Unhashed shape heap (unhashShape shape heap).state (unhashShape shape heap).answer := by
  cases known : heap.view.contents shape .shape with
  | error stop =>
    obtain ⟨error, events, rfl, refused⟩ := tryGet_eq_error known ShapeField.isHashed
    rw [unhashShape, look_bind_of_error (Heap.tryGet · shape ShapeField.isHashed) refused]
    exact .refused (.inr known) rfl
  | ok bytes =>
    have marked := sound.tryGet_eq_pure known ShapeField.isHashed
    cases isHashed : ShapeField.isHashed.read bytes with
    | false =>
      rw [isHashed] at marked
      rw [unhashShape_of_unmarked marked]
      exact .unmarked (contents_eq_ok known).1 (by rw [marked]; rfl) rfl
    | true =>
      rw [isHashed] at marked
      have hash := sound.tryGet_eq_pure known ShapeField.hash
      have read : (heap.tryGet shape ShapeField.hash).answer = _ := congrArg Report.answer hash
      rw [unhashShape_of_marked marked hash (sound.tryGet_eq_pure known ShapeField.hashNext)]
      have marked : (heap.tryGet shape ShapeField.isHashed).answer = .ok true :=
        congrArg Report.answer marked
      rcases searched : heap.predecessor shape heap.chainLimit .null
        (heap.buckets.head (heap.bucketOf (ShapeField.hash.read bytes))) with
        ⟨stop | previous, events⟩
      · have corrupt := sound.legible.predecessor_eq_error (congrArg Report.answer searched)
        rw [corrupt] at searched
        rw [look_bind_of_error (fun heap : Heap => heap.predecessor shape heap.chainLimit .null
          (heap.buckets.head (heap.bucketOf (ShapeField.hash.read bytes)))) searched]
        refine .refused (.inl ⟨rfl, fun findable => ?_⟩) rfl
        obtain ⟨found, answer⟩ := (sound.legible.findable_iff read).mp findable
        rw [searched] at answer
        cases answer
      have found : heap.Findable shape :=
        (sound.legible.findable_iff read).mpr ⟨previous, congrArg Report.answer searched⟩
      have run := look_apply (fun heap : Heap => heap.predecessor shape heap.chainLimit .null
        (heap.buckets.head (heap.bucketOf (ShapeField.hash.read bytes)))) searched
      rw [answer_bind_of_ok run, state_bind_of_ok run]
      have before : previous.isNull = true ∨
          ∃ old, heap.view.contents previous .shape = .ok old := by
        refine Classical.or_iff_not_imp_left.mpr fun inner => ?_
        obtain ⟨_, _, -, rfl, leads, -⟩ := precedes_of_predecessor read
          (congrArg Report.answer searched) inner
        exact sound.contents_of_leads known leads
      obtain ⟨cleared, sound', hashed, rest⟩ := sound.passOver_cases known before
        (ShapeField.hash.read bytes) (ShapeField.hashNext.read bytes)
      rw [rest]
      exact unhashed_of_count sound' hashed marked found

/-! ## 3. Ending a record -/

/-- What ending a record comes to, given what taking it out of a bucket comes to. Only a fault there
keeps the handle from being ended. -/
inductive Invalidated (handle : Handle) (taken : Outcome Stop Heap Bool) :
    Except Stop Bool → Heap → Prop
  | fault {fault : Fault} : taken.answer = .error (.fault fault) →
      Invalidated handle taken (.error (.fault fault)) taken.state
  | ended : (∀ fault, taken.answer ≠ .error (.fault fault)) →
      Invalidated handle taken (onTable (HandleTable.invalidate handle) taken.state).answer
        (onTable (HandleTable.invalidate handle) taken.state).state

/-- What is no marked shape is not taken out of a bucket, which would change nothing. -/
theorem Sound.invalidated (sound : heap.Sound) (handle : Handle) :
    Invalidated handle (unhashShape handle heap) (invalidate handle heap).answer
      (invalidate handle heap).state := by
  rw [invalidate, look_bind_of_pure (fun heap : Heap => pure (heap.kind? handle)) rfl]
  split
  · next kind =>
    have known : heap.view.contents handle Layout.shape.kind = _ := contents_of_kind? kind
    rw [look_bind_of_pure (Heap.get · handle ShapeField.isHashed)
      (sound.get_eq_pure known ShapeField.isHashed)]
    split
    · rcases run : unhashShape handle heap with ⟨(error | fault) | taken, after, events⟩
      · have told : emit (.unhashFailed handle error) after =
          (⟨.ok (), after, [.unhashFailed handle error]⟩ : Outcome Stop Heap Unit) := rfl
        have tried := attempt_of_refused run
        rw [answer_bind_of_ok tried, state_bind_of_ok tried]
        simp only
        rw [answer_bind_of_ok told, state_bind_of_ok told]
        exact .ended fun fault stopped => by cases stopped
      · rw [bind_apply_of_error (attempt_of_fault run)]
        exact .fault rfl
      · have tried := attempt_of_ok run
        rw [answer_bind_of_ok tried, state_bind_of_ok tried]
        exact .ended fun fault stopped => by cases stopped
    · next unmarked =>
      have read := sound.tryGet_eq_pure known ShapeField.isHashed
      rw [Bool.not_eq_true _ |>.mp unmarked] at read
      rw [unhashShape_of_unmarked read]
      exact .ended fun fault stopped => by cases stopped
  · next other =>
    obtain ⟨error, -, run⟩ := unhashShape_of_other other
    rw [run]
    exact .ended fun fault stopped => by cases stopped

end HandleHeap.Heap
