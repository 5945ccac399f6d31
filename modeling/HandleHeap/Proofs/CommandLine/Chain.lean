import HandleHeap.CommandLine.Chain
import HandleHeap.Proofs.Chain.Ancestry
import HandleHeap.Proofs.Heap.NewObject

/-!
# What the chain command finds

The chain command makes its records one after the other and ends none, so the handles are numbered
in the order in which they are issued: the object of link `k` is record `2 * k`, and its shape the
record before it.

* `Heap.answer_new`: whether a heap is made.
* `Stocked`: a heap in which so many records of objects and shapes were made, and nothing else.
* `Built`: a chain of so many links. `Built.addLink_cases` makes one more, and `Built.build_cases`
  all of them.
* `Strung`: how the objects of a chain follow each other, from the last one on
  (`Strung.ancestor?_open`, `Strung.ancestor?_closed`).
* `chain_exact`: what the command answers.
-/

namespace HandleHeap

open HandleHeap.Action

/-! ## 1. New heaps -/

/-- A heap is made where its arena can be reserved, and then room for its handles. -/
theorem Heap.answer_new (grants : Nat → Bool) (config : Config) : (Heap.new grants config).answer =
    if Arena.reservable grants config.arenaCapacity then
      if roomLimit < Placement.entrySize * (config.initialHandles + 1) then
        .error (.fault .capacityOverflow)
      else .ok ⟨config, ⟨.empty, config.arenaCapacity, 0, 0, true⟩, .empty config.maxHandles,
        .new config.shapeHashBits, .empty⟩
    else .error (.refused (.outOfMemory (.reservationFailed config.arenaCapacity))) := by
  have room : roomLimit < Placement.entrySize * min (config.initialHandles + 1) (sizeLimit - 1) ↔
      roomLimit < Placement.entrySize * (config.initialHandles + 1) := by
    unfold roomLimit Placement.entrySize sizeLimit
    omega
  unfold Heap.new Arena.new HandleTable.withCapacity
  by_cases reserved : Arena.reservable grants config.arenaCapacity = true
  · simp only [if_pos reserved, room]
    split <;> rfl
  · simp only [if_neg reserved]
    rfl

/-! ## 2. Handles in order -/

/-- The handle that is issued as number `number` by a table in which none was ended. -/
def nth (number : Nat) : Handle := ⟨UInt32.ofNat number, 0⟩

theorem nth_inj {a b : Nat} (small : a < 2 ^ 32) (small' : b < 2 ^ 32) :
    nth a = nth b ↔ a = b := by
  refine ⟨fun same => ?_, congrArg nth⟩
  have index := congrArg UInt32.toNat (congrArg Handle.index same)
  rwa [nth, nth, UInt32.toNat_ofNat_of_lt' small, UInt32.toNat_ofNat_of_lt' small'] at index

theorem isNull_nth {number : Nat} (pos : 0 < number) (small : number < 2 ^ 32) :
    (nth number).isNull = false := by
  refine beq_false_of_ne fun null => ?_
  have zero := congrArg UInt32.toNat null
  rw [nth, UInt32.toNat_ofNat_of_lt' small] at zero
  exact absurd zero (Nat.ne_of_gt pos)

/-- Where no index is free, the handle after those that are live is issued. -/
theorem HandleTable.Accounted.register_unfreed {α : Type} {table after : HandleTable α}
    (accounted : table.Accounted) (unfreed : table.free = []) {address : α} {handle : Handle}
    {events : List Event}
    (issued : HandleTable.register address table = ⟨.ok handle, after, events⟩) :
    handle = nth (table.live + 1) ∧ after.free = [] := by
  have sum := accounted.live_add_free
  rw [unfreed] at sum
  have size : table.live = table.entries.size := sum
  by_cases full : table.limit < table.entries.size + 1
  · rw [register_of_full unfreed full] at issued
    cases issued
  · have small := accounted.limit_lt
    obtain ⟨generation, vacant, run⟩ :=
      register_of_free (accounted_extended accounted unfreed full) (rfl : _ = _ :: [])
    have fresh : table.extended.lookup (UInt32.ofNat (table.entries.size + 1)) = some ⟨0, none⟩ := by
      refine (lookup_extended table _).trans (if_pos ?_)
      exact toNat_ofNat (by omega)
    rw [register_of_room unfreed full, run] at issued
    cases issued
    cases vacant.symm.trans fresh
    rw [size]
    exact ⟨rfl, rfl⟩

namespace Heap

variable {heap after : Heap} {kind : RecordKind} {bytes : List UInt8} {handle : Handle}

/-- The bytes of other records, when one was made. -/
theorem Made.contents_ne {size : Nat} (made : Made kind size bytes heap after (.ok handle))
    {other : Handle} (differ : other ≠ handle) (expected : RecordKind) :
    after.view.contents other expected = heap.view.contents other expected := by
  obtain ⟨labels, same⟩ := made.resolve_of_ok.2.2 other differ
  have rests : View.Rests other heap.view after.view :=
    ⟨congrArg (Option.map Label.kind) labels, same⟩
  exact rests.contents expected

/-- Filling in a record that was made is making it with other bytes. -/
theorem Made.fill {size : Nat} {zeros : List UInt8} {middle : Heap}
    (made : Made kind size zeros heap middle (.ok handle))
    (view : after.view = middle.view.withBytes handle (some bytes)) (sound : after.Sound) :
    Made kind size bytes heap after (.ok handle) := by
  cases made with
  | made given registered view' _ =>
    refine .made given registered ?_ sound
    rw [view, view', View.withBytes_withBytes]

/-! ## 3. Making records in order -/

/-- The largest number that a handle of the table of the command may have. -/
def lastNumber : Nat := 0xfffffffe

/-- A heap in which so many objects and shapes were made, and nothing else was done. -/
structure Stocked (capacity records : Nat) (heap : Heap) : Prop where
  sound : heap.Sound
  intact : heap.Intact
  ready : heap.arena.initialized = true
  capacity : heap.arena.capacity = capacity
  used : heap.arena.used = 48 * records
  live : heap.handles.live = records
  limit : heap.handles.limit = lastNumber
  unfreed : heap.handles.free = []

variable {capacity records : Nat}

/-- A record more. -/
theorem Stocked.made (stocked : Stocked capacity records heap) (intact : after.Intact)
    (made : Made kind 40 bytes heap after (.ok handle)) :
    handle = nth (records + 1) ∧ Stocked capacity (records + 1) after := by
  have labels : heap.labels.Accounted :=
    (HandleTable.accounted_map ..).mpr stocked.intact.handles
  obtain ⟨-, ready, capacity, used, live, limit⟩ :=
    made.takes stocked.sound (by decide) (by decide)
  cases made with
  | made given registered view sound =>
    obtain ⟨number, unfreed⟩ := labels.register_unfreed stocked.unfreed registered
    have table : after.labels = _ := congrArg View.labels view
    rw [show heap.labels.live = records from stocked.live] at number
    refine ⟨number, sound, intact, ready.trans stocked.ready, capacity.trans stocked.capacity, ?_,
      live.trans (congrArg (· + 1) stocked.live), limit.trans stocked.limit,
      (congrArg HandleTable.free table).trans unfreed⟩
    rw [used, stocked.used, Nat.mul_succ]
    rfl

/-- There are no more records than handles. -/
theorem Stocked.records_le (stocked : Stocked capacity records heap) : records ≤ lastNumber := by
  have sum := stocked.intact.handles.live_add_free
  have most := stocked.intact.handles.size_le
  rw [← stocked.live, ← stocked.limit]
  exact (Nat.le_add_right ..).trans (sum.le.trans most)

section Room

variable (stocked : Stocked capacity records heap) (space : 48 * (records + 1) ≤ capacity)

include stocked space

theorem Stocked.exists_block : ∃ block, (Arena.allocate 40 heap.arena).answer = .ok block := by
  refine (allocate_isOk_iff (by decide) (by decide)).mpr ⟨stocked.ready, ?_⟩
  rw [stocked.used, stocked.capacity]
  exact space

/-- The arena has space for one record more, so only the handles may be used up. -/
theorem Stocked.allocRecord_cases (kind : RecordKind) (allowed : kind.Allows 40) :
    (records < lastNumber ∧ ∃ after events,
        Heap.allocRecord kind 40 heap = ⟨.ok (nth (records + 1)), after, events⟩) ∨
      (lastNumber ≤ records ∧ (Heap.allocRecord kind 40 heap).answer =
        .error (.refused .handleTableFull)) := by
  have allowed : 0 < 40 → kind.Allows 40 := fun _ => allowed
  have made := stocked.sound.allocRecord allowed
  have intact := ((safe_allocRecord allowed).fair heap stocked.intact).intact
  obtain ⟨block, granted⟩ := stocked.exists_block space
  have labels : heap.labels.Accounted :=
    (HandleTable.accounted_map ..).mpr stocked.intact.handles
  have issued : (∃ handle, (HandleTable.register ⟨kind, false⟩ heap.labels).answer = .ok handle) ↔
      records < lastNumber := by
    rw [labels.register_isOk_iff, ← stocked.live, ← stocked.limit]
    rfl
  rcases run : Heap.allocRecord kind 40 heap with ⟨stop | handle, after, events⟩ <;>
    rw [run] at made intact
  · have made : Made kind 40 (List.replicate 40 0) heap after (.error stop) := made
    cases made with
    | refused given view => cases granted.symm.trans given
    | full given full view =>
      have full := congrArg Outcome.answer full
      refine .inr ⟨Nat.not_lt.mp fun few => ?_, ?_⟩
      · obtain ⟨handle, other⟩ := issued.mpr few
        cases full.symm.trans other
      · rw [labels.register_eq_error full]
  · have made : Made kind 40 (List.replicate 40 0) heap after (.ok handle) := made
    obtain ⟨rfl, -⟩ := stocked.made intact made
    cases made with
    | made given registered view sound =>
      exact .inl ⟨issued.mp ⟨_, congrArg Outcome.answer registered⟩, after, events, rfl⟩

/-- A shape is made as long as there is a handle for it. -/
theorem Stocked.allocShape_cases (proto : Handle) :
    (records < lastNumber ∧ ∃ after events,
        Heap.allocShape proto 0 heap = ⟨.ok (nth (records + 1)), after, events⟩ ∧
        Stocked capacity (records + 1) after ∧
        Made .shape 40 (newShape proto 0) heap after (.ok (nth (records + 1)))) ∨
      (lastNumber ≤ records ∧ (Heap.allocShape proto 0 heap).answer =
        .error (.refused .handleTableFull)) := by
  obtain ⟨after, run, made⟩ := stocked.sound.allocShape_eq proto 0
  have intact := ((safe_allocShape proto 0).fair heap stocked.intact).intact
  rw [run] at intact ⊢
  rcases stocked.allocRecord_cases space .shape rfl with
    ⟨few, _, events, record⟩ | ⟨full, record⟩
  · have answer : (Heap.allocRecord .shape Layout.shape.size heap).answer =
        .ok (nth (records + 1)) := congrArg Outcome.answer record
    rw [answer] at made ⊢
    exact .inl ⟨few, _, _, rfl, (stocked.made intact made).2, made⟩
  · exact .inr ⟨full, record⟩

/-- An object without slots is made as long as there is a handle for it. -/
theorem Stocked.allocObject_cases {shape proto : Handle}
    (known : heap.view.contents shape .shape = .ok (newShape proto 0)) (named : shape.isNull = false) :
    (records < lastNumber ∧ ∃ after events,
        Heap.allocObject shape 0 heap = ⟨.ok (nth (records + 1)), after, events⟩ ∧
        Stocked capacity (records + 1) after ∧
        Made .object 40 (newObject shape .null 0) heap after (.ok (nth (records + 1)))) ∨
      (lastNumber ≤ records ∧ (Heap.allocObject shape 0 heap).answer =
        .error (.refused .handleTableFull)) := by
  have known : heap.view.contents shape Layout.shape.kind = .ok (newShape proto 0) := known
  have read := stocked.sound.tryGet_eq_pure known ShapeField.propSize
  rw [propSize_newShape] at read
  have intact := ((safe_allocObject shape 0).fair heap stocked.intact).intact
  have leaves : Leaves heap.Dead heap (Heap.allocObject shape 0) :=
    leaves_allocObject stocked.sound shape 0
  have bare : Heap.allocObject shape 0 heap = (Heap.allocRecord .object Layout.object.size >>=
      fun object => fillObject shape object .null 0) heap := by
    rw [allocObject_eq, named]
    exact look_bind_of_pure (Heap.tryGet · shape ShapeField.propSize) read
  rcases stocked.allocRecord_cases space .object rfl with
    ⟨few, middle, events, record⟩ | ⟨full, record⟩
  · have allowed : 0 < 40 → RecordKind.object.Allows 40 := fun _ => rfl
    have made := stocked.sound.allocRecord allowed
    rw [record] at made
    have made : Made .object 40 (List.replicate 40 0) heap middle (.ok (nth (records + 1))) := made
    obtain ⟨last, fill, view⟩ := made.sound.fillObject_zeros made.contents shape .null 0
    have record : Heap.allocRecord .object Layout.object.size heap =
        ⟨.ok (nth (records + 1)), middle, events⟩ := record
    have run : Heap.allocObject shape 0 heap = ⟨.ok (nth (records + 1)), last, events ++ []⟩ := by
      rw [bare, bind_apply_of_ok record, fill]
    rw [run] at intact
    have sound : last.Sound := by
      have sound := leaves.sound (congrArg Outcome.answer run)
      rwa [run] at sound
    have made := made.fill view sound
    exact .inl ⟨few, last, _, run, (stocked.made intact made).2, made⟩
  · refine .inr ⟨full, ?_⟩
    rw [bare, answer_bind_of_error (e := .refused .handleTableFull) record]

end Room

end Heap

/-! ## 4. Building a chain -/

namespace CommandLine.Chain

open Heap

variable {heap after : Heap} {size count : Nat}

/-- A chain of so many links: each object has a shape of its own, whose prototype is the object
before it, and the first has none. -/
structure Built (size count : Nat) (heap : Heap) : Prop where
  stocked : Stocked size (2 * count) heap
  shape : ∀ link < count, heap.view.contents (nth (2 * link + 1)) .shape =
    .ok (newShape (nth (2 * link)) 0)
  object : ∀ link < count, heap.view.contents (nth (2 * link + 2)) .object =
    .ok (newObject (nth (2 * link + 1)) .null 0)

/-- A link is added as long as there are two handles for it. -/
theorem Built.addLink_cases (built : Built size count heap)
    (space : 96 * (count + 1) ≤ size) :
    (2 * (count + 1) ≤ lastNumber ∧ ∃ after events,
        addLink (nth (2 * count)) heap = ⟨.ok (nth (2 * (count + 1))), after, events⟩ ∧
        Built size (count + 1) after) ∨
      (lastNumber < 2 * (count + 1) ∧ (addLink (nth (2 * count)) heap).answer =
        .error (.refused .handleTableFull)) := by
  have last : lastNumber < 2 ^ 32 := by decide
  rcases built.stocked.allocShape_cases (by omega) (nth (2 * count)) with
    ⟨few, middle, events, run, stocked, made⟩ | ⟨full, refused⟩
  · have small : 2 * count + 1 < 2 ^ 32 := by omega
    rcases stocked.allocObject_cases (by omega) made.contents (isNull_nth (by omega) small) with
      ⟨few', after, events', run', stocked', made'⟩ | ⟨full, refused⟩
    · have small' : 2 * count + 2 < 2 ^ 32 := by omega
      have keeps {number : Nat} (before : number < 2 * count + 2) (kind : RecordKind) :
          after.view.contents (nth number) kind = middle.view.contents (nth number) kind :=
        made'.contents_ne (fun same => absurd ((nth_inj (by omega) small').mp same) (by omega)) kind
      have kept {number : Nat} (before : number < 2 * count + 1) (kind : RecordKind) :
          after.view.contents (nth number) kind = heap.view.contents (nth number) kind :=
        (keeps (by omega) kind).trans
          (made.contents_ne (fun same => absurd ((nth_inj (by omega) small).mp same) (by omega)) kind)
      refine .inl ⟨by omega, after, events ++ events', ?_, stocked', fun link inside => ?_,
        fun link inside => ?_⟩
      · rw [addLink, bind_apply_of_ok run, run']
        rfl
      · rcases Nat.lt_succ_iff_lt_or_eq.mp inside with before | rfl
        · rw [kept (by omega), built.shape link before]
        · rw [keeps (by omega), made.contents]
      · rcases Nat.lt_succ_iff_lt_or_eq.mp inside with before | rfl
        · rw [kept (by omega), built.object link before]
        · exact made'.contents
    · refine .inr ⟨by omega, ?_⟩
      rw [addLink, answer_bind_of_ok run, refused]
  · refine .inr ⟨by omega, ?_⟩
    rw [addLink, answer_bind_of_error refused]

/-- The object made first, null before there is one. -/
def rootOf (count : Nat) : Handle := if count = 0 then .null else nth 2

/-- All links are built, one after the other, or the handles are used up before. -/
theorem Built.build_cases (built : Built size count heap) (more : Nat)
    (space : 96 * (count + more) ≤ size) :
    (2 * (count + more) ≤ lastNumber ∧ ∃ after,
        build more (rootOf count) (nth (2 * count)) heap =
          .ok (rootOf (count + more), nth (2 * (count + more)), after) ∧
        Built size (count + more) after) ∨
      (lastNumber < 2 * (count + more) ∧ build more (rootOf count) (nth (2 * count)) heap =
        .error (.refused .handleTableFull)) := by
  induction more generalizing count heap with
  | zero => exact .inl ⟨built.stocked.records_le, heap, rfl, built⟩
  | succ more ih =>
    rcases built.addLink_cases (by omega) with ⟨few, after, events, run, built'⟩ | ⟨full, refused⟩
    · have root : (if (rootOf count).isNull then nth (2 * (count + 1)) else rootOf count) =
          rootOf (count + 1) := by
        by_cases none : count = 0
        · subst none
          rfl
        · rw [rootOf, if_neg none, isNull_nth (by decide) (by decide)]
          rfl
      have step : build (more + 1) (rootOf count) (nth (2 * count)) heap =
          build more (rootOf (count + 1)) (nth (2 * (count + 1))) after := by
        rw [build, run]
        simp only [root]
      rw [step, ← Nat.add_assoc, Nat.add_right_comm]
      exact ih built' (by omega)
    · refine .inr ⟨by omega, ?_⟩
      rcases run : addLink (nth (2 * count)) heap with ⟨answer, after, events⟩
      rw [run] at refused
      cases refused
      rw [build, run]

/-! ## 5. Following a chain -/

theorem prototype_of_contents (sound : heap.Sound) {object : Handle} {record record' : List UInt8}
    (known : heap.view.contents object .object = .ok record)
    (shaped : heap.view.contents (ObjectField.shape.read record) .shape = .ok record') :
    (heap.prototype object).answer = .ok (ShapeField.proto.read record') := by
  have known : heap.view.contents object Layout.object.kind = .ok record := known
  have shaped : heap.view.contents _ Layout.shape.kind = .ok record' := shaped
  rw [answer_prototype, sound.get_eq_pure known, Report.pure_bind, sound.get_eq_pure shaped]
  rfl

/-- A chain of so many objects, each of which has the one before it as its prototype. The first one
has `first`. -/
structure Strung (count : Nat) (first : Handle) (heap : Heap) : Prop where
  sound : heap.Sound
  intact : heap.Intact
  few : 2 * count < 2 ^ 32
  next : ∀ link < count, (heap.prototype (nth (2 * link + 2))).answer =
    .ok (if link = 0 then first else nth (2 * link))

/-- A chain that was built is open. -/
theorem Built.strung (built : Built size count heap) : Strung count .null heap := by
  have most := built.stocked.records_le
  refine ⟨built.stocked.sound, built.stocked.intact, Nat.lt_of_le_of_lt most (by decide),
    fun link inside => ?_⟩
  have shaped := built.shape link inside
  rw [← shape_newObject (nth (2 * link + 1)) .null 0] at shaped
  rw [prototype_of_contents built.stocked.sound (built.object link inside) shaped, proto_newShape]
  split
  · next first => rw [first]; rfl
  · rfl

/-- Closing a chain makes its last object the prototype of the first. -/
theorem Built.close_eq (built : Built size count heap) (pos : 0 < count) (leaf : Handle) :
    ∃ after events, close (nth 2) leaf heap = ⟨.ok (), after, events⟩ ∧ Strung count leaf after := by
  have few : 2 * count < 2 ^ 32 := Nat.lt_of_le_of_lt built.stocked.records_le (by decide)
  have known : heap.view.contents (nth 2) Layout.object.kind = .ok (newObject (nth 1) .null 0) :=
    built.object 0 pos
  have shaped : heap.view.contents (nth 1) Layout.shape.kind = .ok (newShape .null 0) :=
    built.shape 0 pos
  have read := built.stocked.sound.get_eq_pure known ObjectField.shape
  rw [shape_newObject] at read
  obtain ⟨after, run, sound, view⟩ := built.stocked.sound.set_eq shaped ShapeField.proto leaf
  have intact := ((safe_set (nth 1) ShapeField.proto leaf).fair heap built.stocked.intact).intact
  rw [run] at intact
  have kept {number : Nat} (other : number ≠ 1) (small : number < 2 ^ 32) (kind : RecordKind) :
      after.view.contents (nth number) kind = heap.view.contents (nth number) kind := by
    rw [view, View.contents_withBytes_ne]
    exact fun same => other ((nth_inj small (by decide)).mp same)
  refine ⟨after, [], ?_, sound, intact, few, fun link inside => ?_⟩
  · rw [close, look_bind_of_pure (Heap.get · (nth 2) ObjectField.shape) read, run]
  · have object := (kept (by omega) (by omega) .object).trans (built.object link inside)
    by_cases first : link = 0
    · subst first
      have closed : after.view.contents (nth 1) .shape =
          .ok (ShapeField.proto.write leaf (newShape .null 0)) := by
        rw [view]
        exact View.contents_withBytes_self _ shaped _
      rw [← shape_newObject (nth 1) .null 0] at closed
      rw [prototype_of_contents sound object closed, Field.read_write _ _ (length_newShape ..)]
      rfl
    · have shape := (kept (by omega) (by omega) .shape).trans (built.shape link inside)
      rw [← shape_newObject (nth (2 * link + 1)) .null 0] at shape
      rw [prototype_of_contents sound object shape, proto_newShape, if_neg first]

section Strung

variable {first : Handle} (strung : Strung count first heap) (pos : 0 < count)

include strung pos

theorem Strung.ancestor?_zero :
    heap.ancestor? (nth (2 * count)) 0 = some (nth (2 * count)) := by
  rw [ancestor?, isNull_nth (by omega) strung.few]
  rfl

/-- After an object comes the one before it, or the prototype of the first. -/
theorem Strung.ancestor?_succ {distance link : Nat} (inside : link < count)
    (here : heap.ancestor? (nth (2 * count)) distance = some (nth (2 * (link + 1)))) :
    heap.ancestor? (nth (2 * count)) (distance + 1) =
      if link = 0 then (if first.isNull then none else some first) else some (nth (2 * link)) := by
  have few := strung.few
  rw [Heap.ancestor?_succ here (strung.next link inside)]
  split
  · rfl
  · next later => rw [isNull_nth (by omega) (by omega)]; rfl

end Strung

/-- An open chain ends with its first object. -/
theorem Strung.ancestor?_open (strung : Strung count .null heap) (pos : 0 < count)
    (distance : Nat) : heap.ancestor? (nth (2 * count)) distance =
      if distance < count then some (nth (2 * (count - distance))) else none := by
  induction distance with
  | zero => rw [strung.ancestor?_zero pos, if_pos pos, Nat.sub_zero]
  | succ distance ih =>
    rcases Nat.lt_or_ge distance count with inside | beyond
    · rw [if_pos inside] at ih
      have place : count - distance = count - (distance + 1) + 1 := by omega
      rw [place] at ih
      rw [strung.ancestor?_succ pos (by omega) ih]
      by_cases last : distance + 1 < count
      · rw [if_neg (by omega), if_pos last]
      · rw [if_pos (by omega), if_neg last]
        rfl
    · rw [if_neg (by omega)] at ih
      rw [ancestor?, ih, if_neg (by omega)]
      rfl

/-- A closed chain goes round. -/
theorem Strung.ancestor?_closed (strung : Strung count (nth (2 * count)) heap) (pos : 0 < count)
    (distance : Nat) : heap.ancestor? (nth (2 * count)) distance =
      some (nth (2 * (count - distance % count))) := by
  have few := strung.few
  induction distance with
  | zero => rw [strung.ancestor?_zero pos, Nat.zero_mod, Nat.sub_zero]
  | succ distance ih =>
    have rest := Nat.mod_lt distance pos
    have place : count - distance % count = count - (distance % count + 1) + 1 := by omega
    rw [place] at ih
    rw [strung.ancestor?_succ pos (by omega) ih, isNull_nth (by omega) few]
    have further : (distance + 1) % count = (distance % count + 1) % count := by
      rw [Nat.mod_add_mod]
    rw [further]
    by_cases last : distance % count + 1 = count
    · rw [if_pos (by omega), last, Nat.mod_self]
      rfl
    · have within : distance % count + 1 < count := by omega
      rw [if_neg (by omega), Nat.mod_eq_of_lt within]

/-! ## 6. Searching a chain -/

/-- The search of an open chain for its first object finds it after all links, or gives up. -/
theorem Strung.search_open (strung : Strung count .null heap) (pos : 0 < count) :
    (Heap.search (nth (2 * count)) () (fun _ _ object => pure ((), object = nth 2)) heap).answer =
      .ok ((), if count ≤ maxChainDepth then .found (nth 2) (count - 1)
        else .depthExceeded (nth (2 * (count - 999 % count))) maxChainDepth) := by
  have few := strung.few
  have there {distance : Nat} (inside : distance < count) :
      heap.ancestor? (nth (2 * count)) distance = some (nth (2 * (count - distance))) := by
    rw [strung.ancestor?_open pos, if_pos inside]
  have passes {distance : Nat} (before : distance + 1 < count) :
      heap.Passes (nth (2 * count)) (fun object => object = nth 2) distance := by
    refine ⟨_, there (by omega), decide_eq_false fun same => ?_⟩
    exact absurd ((nth_inj (by omega) (by decide)).mp same) (by omega)
  have sought : Sought heap (nth (2 * count)) (fun object => object = nth 2)
      (if count ≤ maxChainDepth then .found (nth 2) (count - 1)
        else .depthExceeded (nth (2 * (count - 999 % count))) maxChainDepth) := by
    split
    · next within =>
      refine .found (by omega) ?_ (decide_eq_true rfl) fun nearer less => passes (by omega)
      rw [there (by omega), Nat.sub_sub_self pos]
    · next beyond =>
      have more : maxChainDepth < count := Nat.lt_of_not_le beyond
      have last : heap.lastOf (nth (2 * count)) maxChainDepth =
          nth (2 * (count - 999 % count)) := by
        have less : maxChainDepth - 1 < count := Nat.lt_of_le_of_lt (Nat.sub_le ..) more
        rw [lastOf_of_pos _ _ (by decide), there less,
          Nat.mod_eq_of_lt (show 999 < count from less)]
        rfl
      rw [← last]
      exact .depthExceeded rfl (there more) fun nearer less => passes (by omega)
  obtain ⟨own, answer⟩ := (search_iff strung.intact (decides_eq heap (nth 2))).mpr sought
  exact answer

/-- A search of a closed chain for what is not there gives up. -/
theorem Strung.search_closed (strung : Strung count (nth (2 * count)) heap) (pos : 0 < count) :
    (Heap.search (nth (2 * count)) () (fun _ _ _ => pure ((), false)) heap).answer =
      .ok ((), .depthExceeded (nth (2 * (count - 999 % count))) maxChainDepth) := by
  have decides : heap.Decides (fun (_ : Unit) _ _ => pure ((), false)) fun _ => false :=
    fun _ _ => ⟨(), rfl⟩
  have there := strung.ancestor?_closed pos
  have last : heap.lastOf (nth (2 * count)) maxChainDepth = nth (2 * (count - 999 % count)) := by
    rw [lastOf_of_pos _ _ (by decide), there]
    rfl
  have sought : Sought heap (nth (2 * count)) (fun _ => false)
      (.depthExceeded (nth (2 * (count - 999 % count))) maxChainDepth) := by
    rw [← last]
    exact .depthExceeded rfl (there _) fun nearer _ => ⟨_, there nearer, rfl⟩
  obtain ⟨own, answer⟩ := (search_iff strung.intact decides).mpr sought
  exact answer

/-- What the search of a chain of so many links comes to. -/
def expected (count : Nat) (cycle : Bool) : ChainSearch :=
  if cycle = false ∧ count ≤ maxChainDepth then .found (nth 2) (count - 1)
  else .depthExceeded (nth (2 * (count - 999 % count))) maxChainDepth

theorem outcome_expected (count : Nat) (cycle : Bool) : outcome (expected count cycle) =
    if cycle = false ∧ count ≤ maxChainDepth then
      [("outcome", .word "found"), ("hops", .number (count - 1))]
    else [("outcome", .word "depth_exceeded"), ("visited", .number maxChainDepth)] := by
  unfold expected
  split <;> rfl

variable {grants : Nat → Bool}

/-- A heap is made in any arena that can be reserved. -/
theorem exists_heap (reserved : Arena.reservable grants size = true) :
    ∃ heap, (Heap.new grants { arenaCapacity := size }).answer = .ok heap := by
  have room : ¬ roomLimit < Placement.entrySize * (8192 + 1) := by decide
  exact ⟨_, (answer_new grants _).trans ((if_pos reserved).trans (if_neg room))⟩

theorem built_new {heap : Heap}
    (made : (Heap.new grants { arenaCapacity := size }).answer = .ok heap) : Built size 0 heap := by
  have tracked := (tracked_new made).sound Arena.sizeLimit_pos
  have intact := intact_new made
  rw [answer_new] at made
  split at made
  · split at made
    · cases made
    · cases made
      exact ⟨⟨tracked.1, intact, rfl, rfl, rfl, rfl, rfl, rfl⟩,
        fun _ none => absurd none (Nat.not_lt_zero _), fun _ none => absurd none (Nat.not_lt_zero _)⟩
  · cases made

/-- Where the arena can be reserved, only the handles may not be enough. -/
theorem searched_eq {depth : Nat} (cycle : Bool)
    (reserved : Arena.reservable grants (max (links depth * bytesPerLink) (64 * 1024)) = true) :
    searched grants depth cycle =
      if 2 * links depth ≤ lastNumber then .ok (expected (links depth) cycle)
      else .error (.refused .handleTableFull) := by
  have pos : 0 < links depth := Nat.lt_of_lt_of_le Nat.one_pos (Nat.le_max_right depth 1)
  have product : links depth * bytesPerLink < sizeLimit :=
    Nat.lt_of_le_of_lt (Nat.le_trans (Nat.le_max_left ..) (Arena.reservable_iff.mp reserved).2.1)
      (by decide)
  have sized : capacity depth = .ok (max (links depth * bytesPerLink) (64 * 1024)) :=
    if_pos product
  obtain ⟨heap, made⟩ := exists_heap reserved
  have space : 96 * (0 + links depth) ≤ max (links depth * bytesPerLink) (64 * 1024) := by
    refine Nat.le_trans ?_ (Nat.le_max_left ..)
    unfold bytesPerLink
    omega
  have root : rootOf (0 + links depth) = nth 2 := if_neg (by omega)
  have built := (built_new made).build_cases (links depth) space
  rw [root, Nat.zero_add] at built
  unfold searched
  rw [sized]
  show ((Heap.new grants _).answer >>= _) = _
  rw [made]
  rcases built with ⟨few, after, run, built⟩ | ⟨full, refused⟩
  · rw [if_pos few]
    show (build (links depth) (rootOf 0) (nth (2 * 0)) heap >>= _) = _
    rw [run]
    cases cycle with
    | false =>
      show ((Heap.search (nth (2 * links depth)) () (fun _ _ object => pure ((), object = nth 2))
        after).answer >>= _) = _
      rw [built.strung.search_open pos]
      simp [expected]
    | true =>
      obtain ⟨closed, events, run', strung⟩ := built.close_eq pos (nth (2 * links depth))
      show (((close (nth 2) (nth (2 * links depth)) >>= fun _ =>
        Heap.search (nth (2 * links depth)) () fun _ _ _ => pure ((), false)) after).answer >>= _) = _
      rw [answer_bind_of_ok run', strung.search_closed pos]
      simp [expected]
  · rw [if_neg (Nat.not_le.mpr full)]
    show (build (links depth) (rootOf 0) (nth (2 * 0)) heap >>= _) = _
    rw [refused]
    rfl

/-- A chain of any depth whose arena can be reserved and whose handles can be numbered is built. The
root of an open chain is found after all of its links, or given up if there are more than a search
follows. The search on a cyclic chain is always given up. -/
theorem chain_exact (depth : Nat) (cycle : Bool)
    (reserved : grants (max (128 * links depth) 65536) = true)
    (few : 2 * links depth ≤ 2 ^ 32 - 2) :
    capacity depth = .ok (max (128 * links depth) 65536) ∧
    (∃ heap, (Heap.new grants { arenaCapacity := max (128 * links depth) 65536 }).answer =
      .ok heap) ∧
    searched grants depth cycle = .ok (if cycle = false ∧ links depth ≤ 1000
      then .found (nth 2) (links depth - 1)
      else .depthExceeded (nth (2 * (links depth - 999 % links depth))) 1000) ∧
    run grants depth cycle = .ok (.object ([("depth", .number depth), ("cycle", .flag cycle)] ++
      if cycle = false ∧ links depth ≤ 1000
      then [("outcome", .word "found"), ("hops", .number (links depth - 1))]
      else [("outcome", .word "depth_exceeded"), ("visited", .number 1000)])) := by
  have size : links depth * bytesPerLink = 128 * links depth := Nat.mul_comm ..
  have room : max (128 * links depth) 65536 ≤ roomLimit := by
    unfold roomLimit
    omega
  have reservable : Arena.reservable grants (max (128 * links depth) 65536) = true :=
    Arena.reservable_iff.mpr
      ⟨Nat.lt_of_lt_of_le (by decide) (Nat.le_max_right ..), room, reserved⟩
  have product : links depth * bytesPerLink < sizeLimit := by
    rw [size]
    exact Nat.lt_of_le_of_lt (Nat.le_trans (Nat.le_max_left ..) room) (by decide)
  have sized : capacity depth = .ok (max (128 * links depth) 65536) := by
    rw [← size]
    exact if_pos product
  have answer : searched grants depth cycle = .ok (expected (links depth) cycle) := by
    rw [searched_eq cycle (size ▸ reservable)]
    exact if_pos few
  refine ⟨sized, exists_heap reservable, answer, ?_⟩
  unfold run
  rw [answer]
  exact congrArg (fun ended => Except.ok (Summary.object (_ ++ ended)))
    (outcome_expected (links depth) cycle)

/-- Three objects, whose root is two links from the leaf, where there are 65536 bytes. -/
theorem chain_exact_small :
    let grants (bytes : Nat) : Bool := bytes ≤ 65536
    grants (max (128 * links 3) 65536) = true ∧ 2 * links 3 ≤ 2 ^ 32 - 2 ∧
      searched grants 3 false = .ok (.found ⟨2, 0⟩ 2) ∧
      searched grants 3 true = .ok (.depthExceeded ⟨6, 0⟩ 1000) := by
  intro grants
  have reserved : grants (max (128 * links 3) 65536) = true := by decide
  have few : 2 * links 3 ≤ 2 ^ 32 - 2 := by decide
  exact ⟨reserved, few, (chain_exact 3 false reserved few).2.2.1,
    (chain_exact 3 true reserved few).2.2.1⟩

end CommandLine.Chain

end HandleHeap
