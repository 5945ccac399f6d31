import HandleHeap.Proofs.Heap.Invariants
import HandleHeap.Proofs.Shape.Interning

/-!
# The interned shapes of a session

Along with a session goes the list of its interned shapes, the one put into a bucket last in front:
`Operation.relink` says what an operation does to the list, without a word of buckets. As long as
no hash, link or mark of a shape is overwritten, the buckets hold the shapes of the list
(`inOrder_of_orderly`). Hence

* `buckets_of_orderly`: the links from the heads of the buckets meet each live interned shape once,
  in the bucket of its hash, and end; the searches along them find no broken link.
-/

namespace HandleHeap

open HandleHeap.Action Heap

/-! ## 1. Orderly sessions -/

/-- Every shape has the hash, the link and the mark that it had. -/
structure View.SameLinks (before after : View) : Prop where
  hash : ∀ shape, after.field shape ShapeField.hash = before.field shape ShapeField.hash
  next : ∀ shape, after.field shape ShapeField.hashNext = before.field shape ShapeField.hashNext
  hashed : ∀ shape, after.field shape ShapeField.isHashed = before.field shape ShapeField.isHashed

namespace Operation

/-- A write into a record spares the hash, the link and the mark of every shape. -/
def SparesLinks (heap : Heap) : Operation Handle → Prop
  | set target field value =>
    heap.view.SameLinks ((set target field value).perform heap).state.view
  | overwrite target start source =>
    heap.view.SameLinks ((overwrite target start source).perform heap).state.view
  | _ => True

/-- The list of interned shapes after an operation. A shape that is put into a bucket comes to stand
in front, one that is taken out of its bucket or ended is no longer listed. -/
def relink (heap : Heap) (shapes : List Handle) : Operation Handle → List Handle
  | hashShape shape =>
    if heap.kind? shape = some .shape ∧ heap.view.field shape ShapeField.isHashed = false then
      shape :: shapes
    else shapes
  | internShape proto =>
    match shapes.find? (heap.view.fits proto), (Heap.internShape proto heap).answer with
    | none, .ok shape => shape :: shapes
    | _, _ => shapes
  | unhashShape shape | invalidate shape => shapes.erase shape
  | reset | teardown => []
  | _ => shapes

end Operation

namespace Heap

/-- No operation of a session overwrites the hash, link or mark of a shape, and the bump offset does
not go around 2 ^ 64. -/
def Orderly : (requested : Nat) → Heap → List (Operation Handle) → Prop
  | _, _, [] => True
  | requested, heap, operation :: rest =>
    operation.SparesLinks heap ∧ operation.requested heap requested < sizeLimit ∧
      Orderly (operation.requested heap requested) (operation.perform heap).state rest

/-- The list of interned shapes after a session. -/
def relinked : Heap → List Handle → List (Operation Handle) → List Handle
  | _, shapes, [] => shapes
  | heap, shapes, operation :: rest =>
    relinked (operation.perform heap).state (operation.relink heap shapes) rest

variable {heap : Heap} {shapes : List Handle}

/-! ## 2. Writes into records -/

/-- A field that holds in the new bytes what it held in the old ones. -/
theorem field_withBytes (view : View) {target : Handle} {bytes : List UInt8} {layout : Layout}
    {scalar : Scalar} (field : Field layout scalar)
    (same : ∀ old, view.contents target layout.kind = .ok old → field.read bytes = field.read old)
    (other : Handle) : (view.withBytes target (some bytes)).field other field =
      view.field other field := by
  by_cases own : other = target
  · cases own
    rw [View.field, View.field, View.contents_withBytes, if_pos rfl]
    cases known : view.contents target layout.kind with
    | ok old => exact same old known
    | error stop => rfl
  · rw [View.field, View.contents_withBytes_ne _ own]
    rfl

/-- A field of a record other than a shape, or one that is apart from the link, may be set. -/
theorem Sound.sparesLinks_set (sound : heap.Sound) {layout : Layout} {scalar : Scalar}
    (target : Handle) (field : Field layout scalar) (value : scalar.Carrier Handle)
    (apart : layout = .shape → ∀ bytes,
      ShapeField.hash.read (field.write value bytes) = ShapeField.hash.read bytes ∧
        ShapeField.hashNext.read (field.write value bytes) = ShapeField.hashNext.read bytes ∧
        ShapeField.isHashed.read (field.write value bytes) = ShapeField.isHashed.read bytes) :
    (Operation.set target field value).SparesLinks heap := by
  show heap.view.SameLinks ((Operation.set target field value).perform heap).state.view
  rw [show ((Operation.set target field value).perform heap).state = (set target field value heap).state
    from state_bind_pure ..]
  cases known : heap.view.contents target layout.kind with
  | error stop =>
    have refused : (heap.view.contents target layout.kind >>= fun bytes =>
        (.ok (field.write value bytes) : Except Stop (List UInt8))) = .error stop := by
      rw [known]
      rfl
    obtain ⟨events, run⟩ := (edits_set target field value).refused sound.toSeparated refused
    rw [run]
    exact ⟨fun _ => rfl, fun _ => rfl, fun _ => rfl⟩
  | ok bytes =>
    obtain ⟨after, run, -, view'⟩ := sound.set_eq known field value
    have kept (old : List UInt8) (own : heap.view.contents target .shape = .ok old) :
        ShapeField.hash.read (field.write value bytes) = ShapeField.hash.read old ∧
          ShapeField.hashNext.read (field.write value bytes) = ShapeField.hashNext.read old ∧
          ShapeField.isHashed.read (field.write value bytes) = ShapeField.isHashed.read old := by
      have kind := (contents_eq_ok known).1.symm.trans (contents_eq_ok own).1
      have shape : layout = .shape := by
        cases layout with
        | shape => rfl
        | object => cases kind
      cases shape
      cases known.symm.trans own
      exact apart rfl bytes
    rw [run, view']
    exact ⟨field_withBytes _ _ fun old own => (kept old own).1,
      field_withBytes _ _ fun old own => (kept old own).2.1,
      field_withBytes _ _ fun old own => (kept old own).2.2⟩

/-- What a shape that is there says of its link is in its fields. -/
theorem link?_eq (heap : Heap) (shape : Handle) :
    heap.view.link? shape =
      if heap.kind? shape = some .shape ∧ heap.view.field shape ShapeField.isHashed = true then
        some ⟨heap.view.field shape ShapeField.hash, heap.view.field shape ShapeField.hashNext⟩
      else none := by
  by_cases kind : heap.kind? shape = some .shape
  · have known : heap.view.contents shape Layout.shape.kind = _ := contents_of_kind? kind
    rw [View.link?_of_contents known, field_of_contents known, field_of_contents known,
      field_of_contents known]
    simp only [Link.ofBytes, kind, true_and]
  · rw [if_neg fun both => kind both.1]
    refine Option.eq_none_iff_forall_not_mem.mpr fun link linked => ?_
    exact kind (kind?_of_link? linked)

theorem OnlyArena.interned {after : Heap} (only : OnlyArena heap after)
    (interned : heap.view.Interned shapes) (same : heap.view.SameLinks after.view) :
    after.view.Interned shapes := by
  obtain ⟨arena, rfl⟩ := only
  refine ShapeBuckets.Interned.congr interned fun shape => ?_
  rw [link?_eq, link?_eq, same.hash, same.next, same.hashed]
  rfl

/-! ## 3. One operation -/

theorem interned_rewind {operation : Operation Handle} (rewinds : operation.rewinds = true) :
    (operation.perform heap).state.view.Interned (operation.relink heap shapes) := by
  have dead (after : Heap) (ended : after.handles = heap.handles.invalidateAll) (shape : Handle) :
      after.view.link? shape = none := by
    refine Option.eq_none_iff_forall_not_mem.mpr fun link linked => ?_
    obtain ⟨placement, known, -⟩ := kind?_eq_some (kind?_of_link? linked)
    rw [ended, HandleTable.resolve_invalidateAll] at known
    cases known
  cases operation with
  | reset => exact .clear (dead _ rfl)
  | teardown =>
    rw [state_teardown]
    exact .clear (dead _ rfl)
  | _ => cases rewinds

theorem Sound.interned_hashShape (sound : heap.Sound) (interned : heap.view.Interned shapes)
    (shape : Handle) :
    (hashShape shape heap).state.view.Interned ((Operation.hashShape shape).relink heap shapes) := by
  simp only [Operation.relink]
  cases known : heap.view.contents shape Layout.shape.kind with
  | error stop =>
    have other : heap.kind? shape ≠ some .shape := fun kind => by
      rw [show heap.view.contents shape Layout.shape.kind = _ from contents_of_kind? kind] at known
      cases known
    obtain ⟨error, events, rfl, refused⟩ := tryGet_eq_error known ShapeField.isHashed
    rw [if_neg fun both => other both.1, hashShape,
      look_bind_of_error (Heap.tryGet · shape ShapeField.isHashed) refused]
    exact interned
  | ok bytes =>
    rw [field_of_contents known]
    cases marked : ShapeField.isHashed.read bytes with
    | true =>
      have read := sound.tryGet_eq_pure known ShapeField.isHashed
      rw [marked] at read
      rw [if_neg (by simp), hashShape,
        look_bind_of_pure (Heap.tryGet · shape ShapeField.isHashed) read]
      exact interned
    | false =>
      obtain ⟨after, first, run, -, linked, -⟩ := sound.hashShape_unlinked interned known marked
      rw [if_pos ⟨(contents_eq_ok known).1, rfl⟩, run]
      exact linked

/-- A shape that is in no bucket is not taken out of one. -/
theorem Sound.unhashShape_unlinked (sound : heap.Sound) {shape : Handle}
    (kind : heap.kind? shape = some .shape) (unlinked : heap.view.link? shape = none) :
    unhashShape shape heap = ⟨.ok false, heap, []⟩ := by
  have known : heap.view.contents shape Layout.shape.kind = _ := contents_of_kind? kind
  have read := sound.tryGet_eq_pure known ShapeField.isHashed
  rw [View.link?_of_contents known, Link.ofBytes] at unlinked
  cases marked : ShapeField.isHashed.read ((heap.bytes? shape).getD []) with
  | true =>
    rw [marked] at unlinked
    cases unlinked
  | false =>
    rw [marked] at read
    exact unhashShape_of_unmarked read

theorem Sound.interned_unhashShape (sound : heap.Sound) (accounted : heap.handles.Accounted)
    (interned : heap.view.Interned shapes) (shape : Handle) :
    (unhashShape shape heap).state.view.Interned (shapes.erase shape) := by
  cases linked : heap.view.link? shape with
  | some link =>
    obtain ⟨after, run, -, unlinked⟩ := sound.unhashShape_linked accounted interned linked
    rw [run]
    exact unlinked
  | none =>
    have unlisted : shape ∉ shapes := by
      rw [interned.linked, linked]
      exact Bool.false_ne_true
    have unmoved : (unhashShape shape heap).state = heap := by
      by_cases kind : heap.kind? shape = some .shape
      · rw [sound.unhashShape_unlinked kind linked]
      · obtain ⟨error, -, run⟩ := unhashShape_of_other kind
        rw [run]
    rw [List.erase_of_not_mem unlisted, unmoved]
    exact interned

/-- A record is ended. If it is an interned shape, it is taken out of the list as well. -/
theorem Sound.interned_invalidate (sound : heap.Sound) (accounted : heap.handles.Accounted)
    (interned : heap.view.Interned shapes) (handle : Handle) :
    (Heap.invalidate handle heap).state.view.Interned (shapes.erase handle) := by
  have left := sound.interned_unhashShape accounted interned handle
  have invalidated := sound.invalidated handle
  generalize (Heap.invalidate handle heap).answer = answer,
    (Heap.invalidate handle heap).state = after at invalidated ⊢
  cases invalidated with
  | fault _ => exact left
  | ended _ => exact interned_end left (link?_of_unlisted left interned.nodup.not_mem_erase)

theorem Sound.interned_internShape (sound : heap.Sound) (accounted : heap.handles.Accounted)
    (interned : heap.view.Interned shapes) (proto : Handle) :
    (Heap.internShape proto heap).state.view.Interned
      ((Operation.internShape proto).relink heap shapes) := by
  have shared := Sound.internShape sound accounted interned proto
  simp only [Operation.relink]
  generalize (Heap.internShape proto heap).answer = answer,
    (Heap.internShape proto heap).state = after at shared ⊢
  cases shared with
  | found known same =>
    rw [known, same]
    exact interned
  | made unknown _ _ _ _ linked _ =>
    rw [unknown]
    exact linked
  | refused unknown _ _ kept =>
    rw [unknown]
    exact kept

/-- An operation leaves in the buckets the shapes that it leaves in the list. -/
theorem Sound.interned_perform (sound : heap.Sound) (accounted : heap.handles.Accounted)
    (interned : heap.view.Interned shapes) (operation : Operation Handle)
    (onward : operation.rewinds = false) (spares : operation.SparesLinks heap) :
    (operation.perform heap).state.view.Interned (operation.relink heap shapes) := by
  cases operation with
  | hashShape shape =>
    have after := sound.interned_hashShape interned shape
    rwa [← state_bind_pure (hashShape shape) fun _ => Answer.done] at after
  | unhashShape shape =>
    have after := sound.interned_unhashShape accounted interned shape
    rwa [← state_bind_pure (unhashShape shape) Answer.flag] at after
  | invalidate shape =>
    have after := sound.interned_invalidate accounted interned shape
    rwa [← state_bind_pure (Heap.invalidate shape) Answer.flag] at after
  | internShape proto =>
    have after := sound.interned_internShape accounted interned proto
    rwa [← state_bind_pure (Heap.internShape proto) Answer.handle] at after
  | set target field value =>
    have only : OnlyArena heap ((Operation.set target field value).perform heap).state :=
      (Operation.keeps_doing (onlyArena_set target field value)).step heap
    exact only.interned interned spares
  | overwrite target start source =>
    have only : OnlyArena heap ((Operation.overwrite target start source).perform heap).state :=
      (keeps_bind (onlyArena_overwrite target start source) fun _ => keeps_pure _).step heap
    exact only.interned interned spares
  | reserve size =>
    have after := (sound.interned_request interned size).1
    rwa [← state_bind_pure (onArena _ _) fun block => Answer.number block.offset] at after
  | reset | teardown => cases onward
  | findShape proto =>
    have same : ((Operation.findShape proto).perform heap).state = heap :=
      state_bind_pure (look (Heap.findShape · proto)) Answer.handle? heap
    rw [same]
    exact interned
  | arenaUsage | config | stats | bytes => exact interned
  | _ => exact sound.interned_plain accounted interned trivial

/-! ## 4. A session -/

/-- An operation of an orderly session leaves in the buckets the shapes of the list. -/
theorem interned_perform {requested : Nat} (tracked : heap.Tracked requested)
    (few : requested < sizeLimit) (accounted : heap.handles.Accounted)
    (interned : heap.view.Interned shapes) {operation : Operation Handle}
    (spares : operation.SparesLinks heap) :
    (operation.perform heap).state.view.Interned (operation.relink heap shapes) := by
  cases rewinds : operation.rewinds with
  | true => exact interned_rewind rewinds
  | false => exact (tracked.sound few).1.interned_perform accounted interned operation rewinds spares

/-- The buckets of a heap that a session comes to hold the shapes of the list that it comes to. -/
theorem interned_run {requested : Nat} (tracked : heap.Tracked requested)
    (accounted : heap.handles.Accounted) (interned : heap.view.Interned shapes)
    (few : requested < sizeLimit) {operations : List (Operation Handle)}
    (orderly : heap.Orderly requested operations) :
    ∃ requested', (heap.run operations).Tracked requested' ∧ requested' < sizeLimit ∧
      (heap.run operations).handles.Accounted ∧
      (heap.run operations).view.Interned (heap.relinked shapes operations) := by
  induction operations generalizing requested heap shapes with
  | nil => exact ⟨requested, tracked, few, accounted, interned⟩
  | cons operation rest ih =>
    obtain ⟨spares, few', orderly⟩ := orderly
    exact ih (tracked.perform operation) (Accounted.perform accounted operation)
      (interned_perform tracked few accounted interned spares) few' orderly

theorem interned_new {grants : Nat → Bool} {config : Config}
    (made : (Heap.new grants config).answer = .ok heap) :
    heap.view.Interned [] := by
  obtain ⟨-, table, -, buckets, -⟩ := new_eq_ok made
  have none (shape : Handle) : heap.view.link? shape = none := by
    refine Option.eq_none_iff_forall_not_mem.mpr fun link linked => ?_
    obtain ⟨placement, known, -⟩ := kind?_eq_some (kind?_of_link? linked)
    rw [HandleTable.resolve_withCapacity table] at known
    cases known
  have clear : heap.view.buckets = (ShapeBuckets.new config.shapeHashBits).clear := buckets
  rw [View.Interned, clear]
  exact .clear none

/-- What a heap is like that an orderly session from a new one on comes to. -/
structure InOrder (config : Config) (heap : Heap) (shapes : List Handle) : Prop where
  sound : heap.Sound
  accounted : heap.handles.Accounted
  setUp : heap.SetUp config
  interned : heap.view.Interned shapes

theorem inOrder_of_orderly {grants : Nat → Bool} {config : Config} {start : Heap}
    (made : (Heap.new grants config).answer = .ok start) {operations : List (Operation Handle)}
    (orderly : start.Orderly 0 operations) :
    InOrder config (start.run operations) (start.relinked [] operations) := by
  have setUp := set_up_of_reached (reached_run (.new made) operations)
  obtain ⟨requested, tracked, few, accounted, interned⟩ := interned_run (tracked_new made)
    (accounted_of_reached (.new made)) (interned_new made) (by decide) orderly
  exact ⟨(tracked.sound few).1, accounted, setUp, interned⟩

/-! ## 5. Searches -/

end Heap

/-- Whether an observer is told of a handle that names no record of the kind that was needed. -/
def Event.misses : Event → Bool
  | unresolved .. | kindMismatch .. => true
  | _ => false

/-- Every handle that was followed named a record of the kind that was needed. -/
def Outcome.Unbroken {ε σ α : Type} (out : Outcome ε σ α) : Prop :=
  ∀ event ∈ out.events, event.misses = false

namespace Heap

variable {α β : Type} {heap : Heap} {shapes : List Handle} {config : Config}

theorem unbroken_bind {first : HeapAction α} {next : α → HeapAction β}
    (unbroken : (first heap).Unbroken)
    (rest : ∀ a after events, first heap = ⟨.ok a, after, events⟩ → (next a after).Unbroken) :
    ((first >>= next) heap).Unbroken := by
  rcases run : first heap with ⟨stop | a, after, events⟩ <;> rw [run] at unbroken
  · rw [bind_apply_of_error run]
    exact unbroken
  · rw [bind_apply_of_ok run]
    intro event told
    rcases List.mem_append.mp told with early | late
    · exact unbroken event early
    · exact rest a after events run event late

theorem unbroken_of_silent {out : Outcome Stop Heap α} (silent : out.events = []) :
    out.Unbroken := by
  intro event told
  rw [silent] at told
  cases told

theorem unbroken_emit {event : Event} (hit : event.misses = false) {next : Unit → HeapAction α}
    (rest : ∀ heap, (next () heap).Unbroken) : ((emit event >>= next) heap).Unbroken := by
  refine unbroken_bind (fun told member => ?_) fun _ after _ _ => rest after
  cases List.mem_singleton.mp member
  exact hit

theorem missless_allocate (size : Nat) (arena : Arena) :
    ∀ event ∈ (Arena.allocate size arena).events, event.misses = false := by
  have allocated := arena.allocated size
  generalize Arena.allocate size arena = out at allocated
  cases allocated with
  | uninitialized | zeroSize | tooLarge | given => nofun
  | exhausted =>
    intro event told
    cases List.mem_singleton.mp told
    rfl

theorem unbroken_allocRecord (kind : RecordKind) (size : Nat) :
    (allocRecord kind size heap).Unbroken := by
  refine unbroken_bind ?_ fun block after _ _ => unbroken_bind (unbroken_of_silent rfl)
    fun _ cleared _ _ => unbroken_bind ?_ fun handle _ _ _ => ?_
  · exact missless_allocate size heap.arena
  · exact unbroken_of_silent (events_register _ cleared.handles)
  · exact unbroken_emit rfl fun _ => unbroken_of_silent rfl

/-- The search for a prototype's shape finds no broken link and ends in time. -/
theorem InOrder.findShape_eq (order : InOrder config heap shapes) (proto : Handle) :
    heap.findShape proto = pure (shapes.find? (heap.view.fits proto)) :=
  order.sound.findShape_eq order.accounted order.interned proto

theorem Sound.unbroken_allocShape (sound : heap.Sound) (proto : Handle) (propSize : UInt32) :
    (Heap.allocShape proto propSize heap).Unbroken := by
  obtain ⟨after, run, -⟩ := sound.allocShape_eq proto propSize
  rw [run]
  exact unbroken_allocRecord .shape Layout.shape.size

/-- Sharing the shape for a prototype follows no broken link. -/
theorem InOrder.unbroken_internShape (order : InOrder config heap shapes) (proto : Handle) :
    (internShape proto heap).Unbroken := by
  rw [internShape, look_bind_of_pure (Heap.findShape · proto) (order.findShape_eq proto)]
  cases shapes.find? (heap.view.fits proto) with
  | some shape => exact unbroken_emit rfl fun _ => unbroken_of_silent rfl
  | none =>
    refine unbroken_bind (order.sound.unbroken_allocShape proto _) fun shape middle _ run => ?_
    have made := Sound.allocShape order.sound proto initialPropSize
    have kept := made.interned order.interned (ofBytes_newShape ..)
    rw [run] at made kept
    obtain ⟨after, -, hashed, -⟩ :=
      Sound.hashShape_unlinked made.sound kept made.contents (isHashed_newShape ..)
    refine unbroken_bind (unbroken_of_silent (congrArg Outcome.events hashed)) fun _ _ _ _ => ?_
    exact unbroken_emit rfl fun _ => unbroken_of_silent rfl

/-- Taking a shape out of its bucket follows no broken link. A handle that names no shape is refused
before any link is followed. -/
theorem InOrder.unhashShape_cases (order : InOrder config heap shapes) (handle : Handle) :
    (heap.kind? handle = some .shape ∧ ∃ linked after,
      unhashShape handle heap = ⟨.ok linked, after, []⟩) ∨
    (heap.kind? handle ≠ some .shape ∧ ∃ error, error ≠ .shapeChainCorrupt ∧
      unhashShape handle heap = ⟨.error (.refused error), heap,
        (heap.tryGet handle ShapeField.isHashed).events⟩) := by
  by_cases kind : heap.kind? handle = some .shape
  · refine .inl ⟨kind, ?_⟩
    cases linked : heap.view.link? handle with
    | some link =>
      obtain ⟨after, run, -⟩ := order.sound.unhashShape_linked order.accounted order.interned linked
      exact ⟨true, after, run⟩
    | none => exact ⟨false, heap, order.sound.unhashShape_unlinked kind linked⟩
  · exact .inr ⟨kind, unhashShape_of_other kind⟩

/-! ## 6. Buckets -/

/-- Whether a handle names a live shape whose mark says that it is interned. -/
def hashed (heap : Heap) (handle : Handle) : Bool :=
  (heap.tryGet handle ShapeField.isHashed).answer.toOption.getD false

/-- Following the links of shapes from `start` on meets the live shapes of a list, and then null. -/
def Follows (heap : Heap) : List Handle → Handle → Prop
  | [], start => start = .null
  | shape :: rest, start => start = shape ∧ heap.kind? shape = some .shape ∧
      ∃ next, heap.tryGet shape ShapeField.hashNext = pure next ∧ heap.Follows rest next

/-- What is met from the heads of the buckets, each of which is selected by `bits` bits of a hash. -/
structure Threaded (bits : Nat) (heap : Heap) (chains : Nat → List Handle) : Prop where
  follows : ∀ bucket, heap.Follows (chains bucket) (heap.buckets.head bucket)
  nodup : ∀ bucket, (chains bucket).Nodup
  hashed : ∀ bucket, ∀ shape ∈ chains bucket, heap.hashed shape = true
  selected : ∀ bucket, ∀ shape ∈ chains bucket, ∃ hash,
    heap.tryGet shape ShapeField.hash = pure hash ∧ hash.toNat >>> (32 - bits) = bucket
  met_once : ∀ shape, heap.hashed shape = true → ∃! bucket, shape ∈ chains bucket
  counted : heap.stats.hashedShapes = heap.handles.toList.countP fun entry => heap.hashed entry.1

theorem Sound.hashed_eq (sound : heap.Sound) (handle : Handle) :
    heap.hashed handle = (heap.view.link? handle).isSome := by
  rw [hashed, sound.answer_tryGet, View.link?]
  show (Except.map _ (heap.view.contents handle .shape)).toOption.getD false = _
  cases heap.view.contents handle .shape with
  | ok bytes =>
    simp only [Except.map, Except.toOption, Option.getD_some, Link.ofBytes]
    split
    · next marked => exact marked
    · next unmarked => exact Bool.eq_false_iff.mpr unmarked
  | error stop => rfl

theorem Sound.follows_of_chain (sound : heap.Sound) {listed : List Handle} {start : Handle}
    (chain : Chain heap.view.link? listed start) : heap.Follows listed start := by
  induction listed generalizing start with
  | nil => exact chain
  | cons shape rest ih =>
    obtain ⟨first, link, known, tail⟩ := chain
    refine ⟨first, kind?_of_link? known, link.next, ?_, ih tail⟩
    obtain ⟨bytes, contents, -, rfl⟩ := View.link?_eq_some_iff.mp known
    exact sound.tryGet_eq_pure contents ShapeField.hashNext

theorem InOrder.count_hashed (order : InOrder config heap shapes) :
    heap.buckets.hashed = heap.handles.toList.countP fun entry => heap.hashed entry.1 := by
  let live := (heap.handles.toList.map Prod.fst).filter heap.hashed
  have interned : heap.buckets.Interned heap.view.link? shapes := order.interned
  have nodup : live.Nodup := (HandleTable.nodup_toList order.accounted).filter _
  have same (shape : Handle) : shape ∈ shapes ↔ shape ∈ live := by
    rw [interned.linked, ← order.sound.hashed_eq, List.mem_filter]
    refine ⟨fun marked => ⟨?_, marked⟩, And.right⟩
    obtain ⟨link, known⟩ := Option.isSome_iff_exists.mp ((order.sound.hashed_eq shape) ▸ marked)
    obtain ⟨placement, resolved, -⟩ := kind?_eq_some (kind?_of_link? known)
    have member := (HandleTable.mem_toList_iff order.accounted).mpr resolved
    exact List.mem_map.mpr ⟨_, member, rfl⟩
  calc heap.buckets.hashed
      = shapes.length := interned.count
    _ = live.length := ((List.perm_ext_iff_of_nodup interned.nodup nodup).mpr same).length_eq
    _ = (heap.handles.toList.map Prod.fst).countP heap.hashed := List.countP_eq_length_filter.symm
    _ = heap.handles.toList.countP fun entry => heap.hashed entry.1 := List.countP_map

/-- The links from the heads of the buckets meet the interned shapes, each in its bucket. -/
theorem InOrder.threaded (order : InOrder config heap shapes) :
    ∃ chains, Threaded (max 1 (min 16 config.shapeHashBits.toNat)) heap chains := by
  have interned : heap.buckets.Interned heap.view.link? shapes := order.interned
  have held (bucket : Nat) (shape : Handle)
      (member : shape ∈ shapes.filter (heap.buckets.holds heap.view.link? bucket)) :
      ∃ link, heap.view.link? shape = some link ∧ heap.buckets.bucket link.hash = bucket := by
    obtain ⟨link, known, held⟩ := (Option.any_eq_true ..).mp (List.mem_filter.mp member).2
    exact ⟨link, known, beq_iff_eq.mp held⟩
  refine ⟨fun bucket => shapes.filter (heap.buckets.holds heap.view.link? bucket),
    fun bucket => order.sound.follows_of_chain (interned.chain bucket),
    fun bucket => interned.nodup.filter _, fun bucket shape member => ?_,
    fun bucket shape member => ?_, fun shape marked => ?_, order.count_hashed⟩
  · obtain ⟨link, known, -⟩ := held bucket shape member
    rw [order.sound.hashed_eq, known]
    rfl
  · obtain ⟨link, known, own⟩ := held bucket shape member
    obtain ⟨bytes, contents, -, rfl⟩ := View.link?_eq_some_iff.mp known
    refine ⟨_, order.sound.tryGet_eq_pure contents ShapeField.hash, ?_⟩
    rw [← own, ShapeBuckets.bucket, order.setUp.bits]
    rfl
  · rw [order.sound.hashed_eq] at marked
    obtain ⟨link, known⟩ := Option.isSome_iff_exists.mp marked
    refine ⟨heap.buckets.bucket link.hash, interned.mem_bucket known, fun bucket member => ?_⟩
    obtain ⟨link', known', own⟩ := held bucket shape member
    cases known.symm.trans known'
    exact own.symm

/-- In an orderly session the links from the heads of the buckets meet each live interned shape once,
in the bucket that its hash selects, and end, and as many are counted. The operations that follow
the links find none that is broken. -/
theorem buckets_of_orderly {grants : Nat → Bool} {config : Config} {start : Heap}
    (made : (Heap.new grants config).answer = .ok start) {operations : List (Operation Handle)}
    (orderly : start.Orderly 0 operations) :
    let heap := start.run operations
    (∃ chains, Threaded (max 1 (min 16 config.shapeHashBits.toNat)) heap chains) ∧
      (∀ proto, ∃ found, heap.findShape proto = ⟨.ok found, []⟩) ∧
      (∀ proto, (internShape proto heap).answer ≠ .error (.refused .shapeChainCorrupt) ∧
        (internShape proto heap).Unbroken) ∧
      ∀ handle, (heap.kind? handle = some .shape ∧ ∃ linked after,
          unhashShape handle heap = ⟨.ok linked, after, []⟩) ∨
        (heap.kind? handle ≠ some .shape ∧ ∃ error, error ≠ .shapeChainCorrupt ∧
          unhashShape handle heap = ⟨.error (.refused error), heap,
            (heap.tryGet handle ShapeField.isHashed).events⟩) := by
  intro heap
  have order := inOrder_of_orderly made orderly
  refine ⟨order.threaded, fun proto => ⟨_, order.findShape_eq proto⟩,
    fun proto => ⟨fun corrupt => ?_, order.unbroken_internShape proto⟩, order.unhashShape_cases⟩
  have shared := Sound.internShape order.sound order.accounted order.interned proto
  rw [corrupt] at shared
  cases shared with
  | refused unknown cause kept same =>
    rcases cause with full | ⟨cause, exhausted⟩
    · cases full
    · cases exhausted

/-- A new heap with an arena of 1024 bytes and two buckets. -/
def newNarrow : Heap :=
  ⟨{ arenaCapacity := 1024, shapeHashBits := 1 }, ⟨.empty, 1024, 0, 0, true⟩, .empty none, .new 1,
    .empty⟩

/-- A session that interns three shapes, gives the first of them a property, moves the second and
ends the third, whose handle is used again. -/
def shapeSession : List (Operation Handle) :=
  [.internShape .null, .internShape ⟨1, 0⟩, .internShape ⟨2, 0⟩,
    .set ⟨1, 0⟩ ShapeField.propCount (1 : UInt32), .relocate ⟨2, 0⟩, .invalidate ⟨3, 0⟩,
    .internShape .null]

theorem new_narrow : (Heap.new (fun _ => true) { arenaCapacity := 1024, shapeHashBits := 1 }).answer =
    .ok newNarrow := rfl

theorem orderly_shapeSession : newNarrow.Orderly 0 shapeSession := by
  let interned : List (Operation Handle) :=
    [.internShape .null, .internShape ⟨1, 0⟩, .internShape ⟨2, 0⟩]
  have few : (runCounting 0 newNarrow interned).1 < sizeLimit := by decide +kernel
  have sound := ((tracked_of_reached (reached_run (.new new_narrow) interned)).sound few).1
  refine ⟨trivial, by decide +kernel, trivial, by decide +kernel, trivial, by decide +kernel,
    sound.sparesLinks_set ⟨1, 0⟩ ShapeField.propCount 1 fun _ bytes => ?_, by decide +kernel,
    trivial, by decide +kernel, trivial, by decide +kernel, trivial, by decide +kernel, trivial⟩
  exact ⟨Field.read_write_apart _ _ (by decide) _, Field.read_write_apart _ _ (by decide) _,
    Field.read_write_apart _ _ (by decide) _⟩

/-- The buckets after that session. -/
theorem buckets_small : newNarrow.Orderly 0 shapeSession ∧
    ∃ chains, Threaded 1 (newNarrow.run shapeSession) chains :=
  ⟨orderly_shapeSession, (buckets_of_orderly new_narrow orderly_shapeSession).1⟩

end Heap

end HandleHeap
