import HandleHeap.Proofs.Heap.Alignment
import HandleHeap.Proofs.Shape.Paths

/-!
# Taking a shape out of a bucket whose links may be broken

Two handles may name records that start at one place, and what is stored in one of them is stored in
the other. The link of a shape is therefore told by where its record starts: shapes with one start
have one link, and because records are aligned, storing the link or the mark of one shape leaves the
links of all that start elsewhere.

* `seat?`: where the record of a shape starts.
* `Relinked`: a heap that differs in links and marks alone, and what its links are.
* `Unlinked`: a shape is off the path of its bucket, and every other shape is where it was.
* `Unhashing`: what taking a marked shape out of its bucket comes to.
* `unhash_of_reached`: of any heap that a session reaches.
-/

namespace HandleHeap.Heap

open HandleHeap.Action

variable {heap after : Heap} {shape other previous : Handle} {start bucket : Nat} {hash : UInt32}

/-! ## 1. Seats -/

/-- Where the record of a shape starts. -/
def seat? (heap : Heap) (shape : Handle) : Option Nat :=
  match (heap.record shape .shape).answer with
  | .ok block => some block.offset
  | .error _ => none

theorem seat?_eq_some : heap.seat? shape = some start ↔
    ∃ block, (heap.record shape .shape).answer = .ok block ∧ block.offset = start := by
  unfold seat?
  cases (heap.record shape .shape).answer <;> simp

/-- The link of a shape that starts at an offset. -/
def linkAt (heap : Heap) (start : Nat) : Handle :=
  Scalar.handle.decode
    (heap.arena.memory.read (start + ShapeField.hashNext.offset) Scalar.handle.width)

/-- Where the record of a shape starts tells what follows the shape. -/
theorem Intact.follower_eq (intact : heap.Intact) (shape : Handle) :
    heap.follower shape = ((heap.seat? shape).map heap.linkAt).getD .null := by
  have read := intact.legible shape
  unfold seat?
  cases found : (heap.record shape .shape).answer with
  | ok block =>
    rw [Heap.get, intact.tryGet_eq found] at read
    exact (Except.ok.inj read).symm
  | error stop =>
    by_contra leads
    obtain ⟨block, there⟩ := record_of_tryGet (tryGet_of_get read leads)
    cases found.symm.trans there

theorem Intact.follower_congr (intact : heap.Intact) (same : heap.seat? shape = heap.seat? other) :
    heap.follower shape = heap.follower other := by
  rw [intact.follower_eq, intact.follower_eq, same]

theorem Aligned.seat (aligned : heap.Aligned) (seated : heap.seat? shape = some start) :
    start % alignment = 0 := by
  obtain ⟨block, found, rfl⟩ := seat?_eq_some.mp seated
  obtain ⟨placement, known, rfl, -⟩ := record_eq_ok found
  exact aligned.offset known

theorem seat?_stored (address : Nat) (bytes : List UInt8) (shape : Handle) :
    (heap.stored address bytes).seat? shape = heap.seat? shape := by
  rw [seat?, record_stored, seat?]

/-! ## 2. Links and marks -/

/-- A heap that differs in what is stored in shapes, and what its links are. -/
structure Relinked (heap after : Heap) (links : Handle → Handle) : Prop where
  intact : after.Intact
  aligned : after.Aligned
  buckets : after.buckets = heap.buckets
  seat : ∀ shape, after.seat? shape = heap.seat? shape
  follower : ∀ shape, after.follower shape = links shape

theorem linkAt_stored_same (start : Nat) (next : Handle) :
    (heap.stored (start + ShapeField.hashNext.offset) (Scalar.handle.encode next)).linkAt start =
      next := by
  have read := Memory.read_write_same heap.arena.memory (start + ShapeField.hashNext.offset)
    (Scalar.handle.encode next)
  rw [Scalar.length_encode] at read
  rw [linkAt, stored, read]
  exact Scalar.decode_encode .handle next

theorem linkAt_stored_apart {address : Nat} {bytes : List UInt8}
    (apart : start + 16 ≤ address ∨ address + bytes.length ≤ start + 8) :
    (heap.stored address bytes).linkAt start = heap.linkAt start := by
  rw [linkAt, stored, Memory.read_write_apart _ apart, linkAt]

theorem Intact.set_link (intact : heap.Intact) (aligned : heap.Aligned)
    (seated : heap.seat? shape = some start) (next : Handle) :
    ∃ after, set shape ShapeField.hashNext next heap = ⟨.ok (), after, []⟩ ∧
      Relinked heap after
        fun other => if heap.seat? other = some start then next else heap.follower other := by
  obtain ⟨block, found, rfl⟩ := seat?_eq_some.mp seated
  have intact' := intact.stored found ShapeField.hashNext next
  refine ⟨_, intact.set_eq found ShapeField.hashNext next, intact', aligned.stored _ _,
    buckets_stored _ _, seat?_stored _ _, fun other => ?_⟩
  rw [intact'.follower_eq, intact.follower_eq, seat?_stored]
  cases there : heap.seat? other with
  | none => simp only [Option.map_none, Option.getD_none, reduceCtorEq, if_false]
  | some start =>
    simp only [Option.map_some, Option.getD_some, Option.some.injEq]
    split
    · next same =>
      rw [same]
      exact linkAt_stored_same block.offset next
    · next differ =>
      -- Both records start at a multiple of 16, so their links are apart.
      have first := aligned.seat there
      have second := aligned.seat seated
      refine linkAt_stored_apart ?_
      simp only [alignment, ShapeField.hashNext, Scalar.length_encode, Scalar.width] at *
      omega

theorem Intact.set_mark (intact : heap.Intact) (aligned : heap.Aligned)
    (seated : heap.seat? shape = some start) (mark : Bool) :
    ∃ after, set shape ShapeField.isHashed mark heap = ⟨.ok (), after, []⟩ ∧
      Relinked heap after heap.follower ∧
      (after.tryGet shape ShapeField.isHashed).answer = .ok mark := by
  obtain ⟨block, found, rfl⟩ := seat?_eq_some.mp seated
  have intact' := intact.stored found ShapeField.isHashed mark
  refine ⟨_, intact.set_eq found ShapeField.isHashed mark,
    ⟨intact', aligned.stored _ _, buckets_stored _ _, seat?_stored _ _, fun other => ?_⟩, ?_⟩
  · rw [intact'.follower_eq, intact.follower_eq, seat?_stored]
    cases there : heap.seat? other with
    | none => simp only [Option.map_none]
    | some start =>
      -- A mark is at a multiple of 16, and a link is in the middle between two.
      have first := aligned.seat there
      have second := aligned.seat seated
      refine linkAt_stored_apart ?_
      simp only [alignment, ShapeField.isHashed, Scalar.length_encode, Scalar.width] at *
      omega
  · have read := Memory.read_write_same heap.arena.memory
      (block.offset + ShapeField.isHashed.offset) (Scalar.flag.encode mark)
    rw [Scalar.length_encode] at read
    rw [← record_stored (block.offset + ShapeField.isHashed.offset) (Scalar.flag.encode mark)]
      at found
    rw [intact'.tryGet_eq found, Heap.stored, read]
    exact congrArg Except.ok (Scalar.decode_encode .flag mark)

/-- The mark and the link of a shape are taken away before it is counted. -/
theorem Intact.unmark_eq (intact : heap.Intact) (aligned : heap.Aligned)
    (seated : heap.seat? shape = some start) :
    ∃ cleared, unmark shape heap = uncount cleared ∧
      Relinked heap cleared
        (fun other => if heap.seat? other = some start then Handle.null else heap.follower other) ∧
      (cleared.tryGet shape ShapeField.hashNext).answer = .ok .null ∧
      (cleared.tryGet shape ShapeField.isHashed).answer = .ok false := by
  obtain ⟨unlinked, setNext, first⟩ := intact.set_link aligned seated .null
  have seated' := (first.seat shape).trans seated
  obtain ⟨cleared, setMark, second, mark⟩ := first.intact.set_mark first.aligned seated' false
  have relinked : Relinked heap cleared
      fun other => if heap.seat? other = some start then Handle.null else heap.follower other :=
    ⟨second.intact, second.aligned, second.buckets.trans first.buckets,
      fun other => (second.seat other).trans (first.seat other),
      fun other => (second.follower other).trans (first.follower other)⟩
  refine ⟨cleared, ?_, relinked, ?_, mark⟩
  · rw [unmark, bind_apply_of_ok setNext, bind_apply_of_ok setMark]
    simp only [List.nil_append]
  · obtain ⟨block, found, -⟩ := seat?_eq_some.mp ((relinked.seat shape).trans seated)
    have read := second.intact.tryGet_of_record found (second.intact.legible shape)
    rwa [relinked.follower, if_pos seated] at read

/-! ## 3. Off the path -/

/-- A shape has no link and no mark any more, and if its bucket has a path, the shape is off it while
every other shape is where it was. -/
structure Unlinked (heap after : Heap) (shape : Handle) (bucket : Nat) : Prop where
  link : (after.tryGet shape ShapeField.hashNext).answer = .ok .null
  mark : (after.tryGet shape ShapeField.isHashed).answer = .ok false
  path : ∀ shapes, heap.Path shapes (heap.buckets.head bucket) →
    shape ∈ shapes ∧ after.Path (shapes.erase shape) (after.buckets.head bucket)

theorem Unlinked.withHashed (unlinked : Unlinked heap after shape bucket) (hashed : Nat) :
    Unlinked heap { after with buckets := { after.buckets with hashed } } shape bucket := by
  refine ⟨unlinked.link, unlinked.mark, fun shapes path => ?_⟩
  obtain ⟨listed, path⟩ := unlinked.path shapes path
  exact ⟨listed, path.congr fun _ _ => rfl⟩

/-- On a path, shapes with one start are one shape. -/
theorem Path.eq_of_seat {shapes : List Handle} {first : Handle} (path : heap.Path shapes first)
    (intact : heap.Intact) (listed : shape ∈ shapes) (listed' : other ∈ shapes)
    (same : heap.seat? shape = heap.seat? other) : shape = other :=
  path.eq_of_follower listed listed' (intact.follower_congr same)

/-- The first shape of a path is taken off it. -/
theorem Path.unlink_first {shapes : List Handle} (intact : heap.Intact)
    (path : heap.Path shapes shape) (live : shape.isNull = false)
    (links : ∀ other, heap.seat? other ≠ heap.seat? shape →
      after.follower other = heap.follower other) :
    shape ∈ shapes ∧ after.Path (shapes.erase shape) (heap.follower shape) := by
  obtain ⟨rest, rfl, onward⟩ := path.eq_cons live
  have alone : shape ∉ rest := (List.nodup_cons.mp path.nodup).1
  refine ⟨List.mem_cons_self, ?_⟩
  rw [List.erase_cons_head]
  refine onward.congr fun other listed => links other fun same => alone ?_
  rwa [← path.eq_of_seat intact (List.mem_cons_of_mem shape listed) List.mem_cons_self same]

/-- A shape behind another one is taken off the path: the link of that one is made to skip it. -/
theorem Path.unlink_inner {shapes : List Handle} {first : Handle} (intact : heap.Intact)
    (path : heap.Path shapes first) (inside : previous ∈ shapes)
    (leads : heap.follower previous = shape) (live : shape.isNull = false)
    (skipped : heap.seat? previous ≠ heap.seat? shape →
      after.follower previous = heap.follower shape)
    (links : ∀ other, heap.seat? other ≠ heap.seat? previous →
      heap.seat? other ≠ heap.seat? shape → after.follower other = heap.follower other) :
    shape ∈ shapes ∧ after.Path (shapes.erase shape) first := by
  obtain ⟨before, behind, rfl⟩ := List.append_of_mem inside
  obtain ⟨rest, rfl, -⟩ := (leads ▸ path.tail).eq_cons live
  have listed : shape ∈ before ++ previous :: shape :: rest := by simp
  -- Neither of the two is on the path anywhere else.
  have nodup := path.nodup
  simp only [List.nodup_append, List.nodup_cons, List.mem_cons, not_or] at nodup
  obtain ⟨-, ⟨⟨differ, apart⟩, apart', -⟩, away⟩ := nodup
  have early : shape ∉ before := fun early => away shape early shape (.inr (.inl rfl)) rfl
  have onward : after.Path (before ++ previous :: rest) first := by
    refine path.skip (skipped fun same => ?_) fun other elsewhere => ?_
    · exact differ (path.eq_of_seat intact inside listed same)
    · have there : other ∈ before ++ previous :: shape :: rest := by
        rcases List.mem_append.mp elsewhere with front | back
        · exact List.mem_append_left _ front
        · simp [back]
      have ne_previous : other ≠ previous := by
        rintro rfl
        rcases List.mem_append.mp elsewhere with front | back
        · exact away other front other (.inl rfl) rfl
        · exact apart back
      have ne_shape : other ≠ shape := by
        rintro rfl
        exact (List.mem_append.mp elsewhere).elim early apart'
      refine links other (fun same => ne_previous ?_) fun same => ne_shape ?_
      · exact path.eq_of_seat intact there inside same
      · exact path.eq_of_seat intact there listed same
  refine ⟨listed, ?_⟩
  rwa [List.erase_append_right _ early, List.erase_cons_tail (by simpa using differ),
    List.erase_cons_head]

/-- A shape in front of its bucket is taken out. -/
theorem Intact.unlink_first (intact : heap.Intact) (aligned : heap.Aligned)
    (seated : heap.seat? shape = some start) (live : shape.isNull = false)
    (front : heap.buckets.head (heap.bucketOf hash) = shape) :
    ∃ cleared, passOver shape hash (heap.follower shape) .null heap = uncount cleared ∧
      cleared.buckets.hashed = heap.buckets.hashed ∧
      Unlinked heap cleared shape (heap.bucketOf hash) := by
  let skipped := heap.buckets.setHead (heap.bucketOf hash) (heap.follower shape)
  have aligned' : Aligned { heap with buckets := skipped } := ⟨aligned.regular, aligned.offset⟩
  obtain ⟨cleared, same, relinked, link, mark⟩ :=
    (intact.withBuckets skipped).unmark_eq aligned' seated
  refine ⟨cleared, (passOver_first rfl heap).trans same,
    (congrArg ShapeBuckets.hashed relinked.buckets :), link, mark, fun shapes path => ?_⟩
  have links (other : Handle) (differ : heap.seat? other ≠ heap.seat? shape) :
      cleared.follower other = heap.follower other := by
    rw [relinked.follower]
    exact if_neg (seated ▸ differ)
  obtain ⟨listed, onward⟩ := (front ▸ path).unlink_first intact live links
  have first : cleared.buckets.head (heap.bucketOf hash) =
      if (heap.follower shape).isNull then .null else heap.follower shape := by
    rw [relinked.buckets, ShapeBuckets.head_setHead, if_pos rfl]
  refine ⟨listed, ?_⟩
  rw [first]
  split
  · next null =>
    have ended : cleared.Path [] (heap.follower shape) := null
    rw [onward.unique ended]
    rfl
  · exact onward

/-- A shape behind another one of its bucket is taken out. -/
theorem Intact.unlink_inner (intact : heap.Intact) (aligned : heap.Aligned)
    (seated : heap.seat? shape = some start) (live : shape.isNull = false) {distance : Nat}
    (there : heap.linked bucket distance = previous) (leads : heap.follower previous = shape)
    (hash : UInt32) :
    ∃ cleared, passOver shape hash (heap.follower shape) previous heap = uncount cleared ∧
      cleared.buckets.hashed = heap.buckets.hashed ∧ Unlinked heap cleared shape bucket := by
  -- What leads somewhere has a record.
  obtain ⟨block, found⟩ : ∃ block, (heap.record previous .shape).answer = .ok block := by
    refine record_of_tryGet (tryGet_of_get (intact.legible previous) fun null => ?_)
    rw [← leads, null] at live
    cases live
  have seated' : heap.seat? previous = some block.offset := seat?_eq_some.mpr ⟨block, found, rfl⟩
  obtain ⟨mended, setNext, first⟩ := intact.set_link aligned seated' (heap.follower shape)
  obtain ⟨cleared, same, second, link, mark⟩ :=
    first.intact.unmark_eq first.aligned ((first.seat shape).trans seated)
  have buckets := second.buckets.trans first.buckets
  have inner : previous.isNull = false := by
    refine Bool.eq_false_iff.mpr fun null => ?_
    rw [← leads, follower_of_null null] at live
    cases live
  refine ⟨cleared, (passOver_inner inner setNext).trans same, congrArg ShapeBuckets.hashed buckets,
    link, mark, fun shapes path => ?_⟩
  have inside : previous ∈ shapes := by
    rcases path.linked_mem distance with listed | null
    · exact there ▸ listed
    · rw [there, inner] at null
      cases null
  rw [buckets]
  refine path.unlink_inner intact inside leads live (fun differ => ?_) fun other differ differ' => ?_
  · rw [second.follower, first.seat, if_neg (seated ▸ differ), first.follower, if_pos seated']
  · rw [second.follower, first.seat, if_neg (seated ▸ differ'), first.follower,
      if_neg (seated' ▸ differ)]

/-! ## 4. One run -/

/-- What taking a marked shape out of its bucket comes to. -/
inductive Unhashing (shape : Handle) (bucket : Nat) (heap : Heap) : Heap → Except Stop Bool → Prop
  /-- The links of the bucket do not lead to the shape. -/
  | refused : (∀ distance, heap.linked bucket distance ≠ shape) →
      Unhashing shape bucket heap heap (.error (.refused .shapeChainCorrupt))
  | unlinked {after : Heap} {distance : Nat} : heap.linked bucket distance = shape →
      0 < heap.buckets.hashed → after.buckets.hashed = heap.buckets.hashed - 1 →
      Unlinked heap after shape bucket → Unhashing shape bucket heap after (.ok true)
  /-- The shape was taken out and could not be taken off the count. -/
  | underflow {after : Heap} {distance : Nat} : heap.linked bucket distance = shape →
      heap.buckets.hashed = 0 → Unlinked heap after shape bucket →
      Unhashing shape bucket heap after (.error (.fault .hashedCountUnderflow))

/-- Whether a shape that was taken out is taken off the count depends on the count. -/
theorem Unlinked.unhashing {distance : Nat} (unlinked : Unlinked heap after shape bucket)
    (there : heap.linked bucket distance = shape)
    (hashed : after.buckets.hashed = heap.buckets.hashed) :
    Unhashing shape bucket heap (uncount after).state (uncount after).answer := by
  unfold uncount
  rcases countUnhashed_cases after with ⟨zero, run⟩ | ⟨positive, run⟩
  · rw [bind_apply_of_error run]
    exact .underflow there (hashed ▸ zero) unlinked
  · rw [bind_apply_of_ok run]
    exact .unlinked there (hashed ▸ positive) (congrArg (· - 1) hashed) (unlinked.withHashed _)

/-- The search for the shape before one finds it if the links lead to it from anywhere. -/
theorem Intact.exists_predecessor_iff (intact : heap.Intact) (bucket : Nat)
    (live : shape.isNull = false) :
    (∃ previous, (heap.predecessor shape heap.chainLimit .null (heap.buckets.head bucket)).answer =
      .ok previous) ↔ ∃ distance, heap.linked bucket distance = shape := by
  have found := intact.legible.found_iff shape .null bucket heap.chainLimit 0
  simp only [Nat.zero_add] at found
  refine Iff.trans found ⟨?_, ?_⟩
  · rintro ⟨distance, -, there, -⟩
    exact ⟨distance, there⟩
  · rintro ⟨distance, there⟩
    obtain ⟨nearest, few, there, nearer⟩ := intact.exists_first (p := (· = shape)) there
      fun _ same => same ▸ live
    exact ⟨nearest, Nat.le_succ_of_le few, there, fun n less => (nearer n less).2⟩

/-- What the search for the shape before one comes to: no shape leads to it, it is in front, or a
shape was found that leads to it. -/
theorem Intact.predecessor_cases (intact : heap.Intact) (bucket : Nat)
    (live : shape.isNull = false) {answer : Except Stop Handle} {events : List Event}
    (searched : heap.predecessor shape heap.chainLimit .null (heap.buckets.head bucket) =
      ⟨answer, events⟩) :
    (answer = .error (.refused .shapeChainCorrupt) ∧
        ∀ distance, heap.linked bucket distance ≠ shape) ∨
      (answer = .ok .null ∧ heap.linked bucket 0 = shape) ∨
      ∃ distance, answer = .ok (heap.linked bucket distance) ∧
        heap.linked bucket (distance + 1) = shape := by
  have leads := intact.exists_predecessor_iff bucket live
  rw [searched] at leads
  have answered := congrArg Report.answer searched
  cases answer with
  | error stop =>
    cases intact.legible.predecessor_eq_error answered
    refine .inl ⟨rfl, fun distance there => ?_⟩
    obtain ⟨previous, none⟩ := leads.mpr ⟨distance, there⟩
    cases none
  | ok previous =>
    have before : ∀ nearer < 0, heap.linked bucket nearer ≠ shape :=
      fun _ less => absurd less (Nat.not_lt_zero _)
    rcases predecessor_eq_ok before answered with ⟨rfl, front⟩ | ⟨distance, rfl, behind, -⟩
    · exact .inr (.inl ⟨rfl, front⟩)
    · exact .inr (.inr ⟨distance, rfl, behind⟩)

theorem Intact.unhashing (intact : heap.Intact) (aligned : heap.Aligned)
    (hashed : heap.IsHashed shape) :
    ∃ hash, (heap.tryGet shape ShapeField.hash).answer = .ok hash ∧
      Unhashing shape (heap.bucketOf hash) heap (unhashShape shape heap).state
        (unhashShape shape heap).answer := by
  obtain ⟨kind, marked⟩ := hashed
  have live := ne_null_of_kind? kind
  have marked := tryGet_of_get marked (by decide)
  obtain ⟨block, found⟩ := record_of_tryGet marked
  have seated : heap.seat? shape = some block.offset := seat?_eq_some.mpr ⟨block, found, rfl⟩
  obtain ⟨hash, read⟩ := intact.exists_answer_get shape ShapeField.hash
  have read := intact.tryGet_of_record found read
  have next := intact.tryGet_of_record found (intact.legible shape)
  refine ⟨hash, read, ?_⟩
  rw [unhashShape_of_marked (intact.tryGet_eq_pure found marked)
    (intact.tryGet_eq_pure found read) (intact.tryGet_eq_pure found next)]
  rcases searched : heap.predecessor shape heap.chainLimit .null
    (heap.buckets.head (heap.bucketOf hash)) with ⟨answer, events⟩
  have run := look_apply (fun heap : Heap => heap.predecessor shape heap.chainLimit .null
    (heap.buckets.head (heap.bucketOf hash))) searched
  rcases intact.predecessor_cases _ live searched with
    ⟨rfl, astray⟩ | ⟨rfl, front⟩ | ⟨distance, rfl, behind⟩
  · rw [bind_apply_of_error run]
    exact .refused astray
  · obtain ⟨cleared, same, count, unlinked⟩ := intact.unlink_first aligned seated live front
    rw [answer_bind_of_ok run, state_bind_of_ok run, same]
    exact unlinked.unhashing front count
  · obtain ⟨cleared, same, count, unlinked⟩ :=
      intact.unlink_inner aligned seated live rfl behind hash
    rw [answer_bind_of_ok run, state_bind_of_ok run, same]
    exact unlinked.unhashing behind count

/-! ## 5. Any heap -/

/-- Whatever was stored in its shapes, and wherever their links lead: a marked shape is taken out of
the bucket that its hash selects if and only if the links of that bucket lead to it, however far away
it is and wherever the links lead from there. Else that is refused and nothing was changed. A shape
that was taken out has no link and no mark, and if its bucket has an end, the shapes of the bucket are
those that were there without it, in their order. -/
theorem unhash_of_reached {config : Config} {requested : Nat}
    (reached : Reached config requested heap) (hashed : heap.IsHashed shape) :
    ∃ hash, (heap.tryGet shape ShapeField.hash).answer = .ok hash ∧
      let bucket := heap.bucketOf hash
      let leads := ∃ distance, heap.linked bucket distance = shape
      let outcome := unhashShape shape heap
      (outcome.answer = .ok true ↔ leads ∧ 0 < heap.buckets.hashed) ∧
      (outcome.answer = .error (.fault .hashedCountUnderflow) ↔
        leads ∧ heap.buckets.hashed = 0) ∧
      (outcome.answer = .error (.refused .shapeChainCorrupt) ↔ ¬ leads) ∧
      (¬ leads → outcome.state = heap) ∧
      (outcome.answer = .ok true →
        (outcome.state.tryGet shape ShapeField.hashNext).answer = .ok .null ∧
        (outcome.state.tryGet shape ShapeField.isHashed).answer = .ok false ∧
        outcome.state.buckets.hashed + 1 = heap.buckets.hashed ∧
        ((∃ distance, (heap.linked bucket distance).isNull = true) →
          ∃ shapes, heap.Path shapes (heap.buckets.head bucket) ∧ shapes.Nodup ∧ shape ∈ shapes ∧
            outcome.state.Path (shapes.erase shape) (outcome.state.buckets.head bucket))) := by
  obtain ⟨hash, read, unhashing⟩ :=
    (intact_of_reached reached).unhashing (aligned_of_reached reached) hashed
  refine ⟨hash, read, ?_⟩
  intro bucket leads outcome
  have unhashing : Unhashing shape bucket heap outcome.state outcome.answer := unhashing
  generalize outcome.state = after at unhashing ⊢
  generalize outcome.answer = answer at unhashing ⊢
  cases unhashing with
  | refused never =>
    have astray : ¬ leads := fun ⟨distance, there⟩ => never distance there
    exact ⟨⟨nofun, fun both => absurd both.1 astray⟩, ⟨nofun, fun both => absurd both.1 astray⟩,
      ⟨fun _ => astray, fun _ => rfl⟩, fun _ => rfl, nofun⟩
  | @unlinked after distance there positive count unlinked =>
    have leads : leads := ⟨distance, there⟩
    refine ⟨⟨fun _ => ⟨leads, positive⟩, fun _ => rfl⟩,
      ⟨nofun, fun both => absurd both.2 positive.ne'⟩, ⟨nofun, absurd leads⟩, absurd leads,
      fun _ => ⟨unlinked.link, unlinked.mark, ?_, ?_⟩⟩
    · rw [count, Nat.sub_add_cancel positive]
    · rintro ⟨far, null⟩
      obtain ⟨shapes, path⟩ := exists_path (Nat.zero_le far) null
      obtain ⟨listed, onward⟩ := unlinked.path shapes path
      exact ⟨shapes, path, path.nodup, listed, onward⟩
  | @underflow after distance there zero _ =>
    have leads : leads := ⟨distance, there⟩
    exact ⟨⟨nofun, fun both => absurd zero both.2.ne'⟩, ⟨fun _ => ⟨leads, zero⟩, fun _ => rfl⟩,
      ⟨nofun, absurd leads⟩, absurd leads, nofun⟩

/-- A shape that was moved behind another one by its hash and the link of that one. It is taken out
and the other one stays. -/
theorem unhash_small :
    let heap := newSmall.run [.internShape .null, .internShape ⟨1, 0⟩,
      .set ⟨1, 0⟩ ShapeField.hashNext ⟨2, 0⟩,
      .set ⟨2, 0⟩ ShapeField.hash Handle.null.shapeHash]
    let after := (unhashShape ⟨2, 0⟩ heap).state
    (unhashShape ⟨2, 0⟩ heap).answer = .ok true ∧
      (after.tryGet ⟨2, 0⟩ ShapeField.isHashed).answer = .ok false ∧
      after.Path [⟨1, 0⟩] (after.buckets.head (heap.bucketOf Handle.null.shapeHash)) := by
  intro heap after
  have reached : Reached { arenaCapacity := 1024 } _ heap := reached_run (.new new_small) _
  -- All that is computed of the heap.
  obtain ⟨hashed, hash, count, first, next, last⟩ :
      (heap.kind? ⟨2, 0⟩ = some .shape ∧
        (heap.get ⟨2, 0⟩ ShapeField.isHashed).answer = .ok true) ∧
        (heap.tryGet ⟨2, 0⟩ ShapeField.hash).answer = .ok Handle.null.shapeHash ∧
        heap.buckets.hashed = 2 ∧
        heap.buckets.head (heap.bucketOf Handle.null.shapeHash) = ⟨1, 0⟩ ∧
        heap.follower ⟨1, 0⟩ = ⟨2, 0⟩ ∧ heap.follower ⟨2, 0⟩ = .null := by
    decide +kernel
  clear_value heap
  have second : heap.linked (heap.bucketOf Handle.null.shapeHash) 1 = ⟨2, 0⟩ :=
    (congrArg heap.follower first).trans next
  have third : heap.linked (heap.bucketOf Handle.null.shapeHash) 2 = .null :=
    (congrArg heap.follower second).trans last
  obtain ⟨_, read, taken, -, -, -, done⟩ := unhash_of_reached reached hashed
  cases Except.ok.inj (hash.symm.trans read)
  have ok : (unhashShape ⟨2, 0⟩ heap).answer = .ok true :=
    taken.mpr ⟨⟨1, second⟩, count ▸ Nat.two_pos⟩
  obtain ⟨-, unmarked, -, path⟩ := done ok
  obtain ⟨shapes, before, -, -, left⟩ := path ⟨2, by rw [third]; rfl⟩
  have both : heap.Path [⟨1, 0⟩, ⟨2, 0⟩] ⟨1, 0⟩ := by
    refine ⟨rfl, rfl, ?_⟩
    rw [next]
    refine ⟨rfl, rfl, ?_⟩
    rw [last]
    rfl
  rw [first] at before
  cases before.unique both
  exact ⟨ok, unmarked, left⟩

end HandleHeap.Heap
