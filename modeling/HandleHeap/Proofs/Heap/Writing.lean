import HandleHeap.Proofs.Heap.Separation

/-!
# Operations that take no block

Writing to a record, pinning it, putting a shape into its bucket or out of it, and ending a record
touch the records they are about and no others. The records are

* `touches_set`, `touches_overwrite`, `touches_setSlot`, `touches_setCell`, `touches_setPinned`,
  `touches_hashShape`: the one that is named;
* `touches_unhashShape`: the shape and the one before it on its chain (`Heap.Precedes`), whose link
  is made to skip it;
* `touches_invalidate`: the same if a hashed shape is ended, and else the one that is named.
-/

namespace HandleHeap.Heap

open HandleHeap.Action

variable {writes : Handle → Prop} {heap : Heap} {α β : Type}

/-! ## 1. Resolved records -/

theorem placement_eq_ok {handle : Handle} {placement : Placement}
    (h : (heap.placement handle).answer = .ok placement) :
    heap.handles.resolve handle = some placement := by
  unfold Heap.placement at h
  split at h
  · next known =>
    cases h
    exact known
  · cases h

theorem locate_eq_ok {handle : Handle} {kind : RecordKind} {block : Block}
    (h : (heap.locate handle kind).answer = .ok block) :
    ∃ placement, heap.handles.resolve handle = some placement ∧ placement.block = block ∧
      placement.kind = kind := by
  unfold locate at h
  split at h
  · cases h
  · next placement known =>
    split at h
    · next same =>
      cases h
      exact ⟨placement, known, rfl, same⟩
    · cases h

theorem record_eq_ok {handle : Handle} {kind : RecordKind} {block : Block}
    (h : (heap.record handle kind).answer = .ok block) :
    ∃ placement, heap.handles.resolve handle = some placement ∧ placement.block = block ∧
      placement.kind = kind := by
  obtain ⟨located, found, held⟩ := Report.bind_eq_ok h
  split at held
  · cases held
    exact locate_eq_ok found
  · cases held

theorem held_of_record {handle : Handle} {kind : RecordKind} {block : Block}
    (h : (heap.record handle kind).answer = .ok block) : heap.arena.holds block = true := by
  obtain ⟨located, -, held⟩ := Report.bind_eq_ok h
  split at held
  · next holds =>
    cases held
    exact holds
  · cases held

/-! ## 2. One run of an operation -/

/-- What an operation does after it read something depends on the heap it read. -/
theorem Separated.look_bind (separated : heap.Separated) {report : Heap → Report Stop α}
    {next : α → HeapAction β}
    (rest : ∀ a, (report heap).answer = .ok a → Touches writes heap (next a heap).state) :
    Touches writes heap ((look report >>= next) heap).state := by
  rw [state_look_bind]
  cases answer : (report heap).answer with
  | ok a => exact rest a answer
  | error stop => exact separated.idle

/-- After a part that depends on the heap, the rest may be one that does not. -/
theorem Touches.bind {action : HeapAction α} {next : α → HeapAction β}
    (first : Touches writes heap (action heap).state)
    (rest : ∀ a, (next a).Keeps (Touching writes)) :
    Touches writes heap ((action >>= next) heap).state := by
  rcases run : action heap with ⟨stop | a, after, events⟩ <;> rw [run] at first
  · rw [bind_apply_of_error run]
    exact first
  · rw [bind_apply_of_ok run]
    exact first.trans ((rest a).step after first.separated)

/-! ## 3. Bytes of a record -/

/-- Storing bytes in the block of a record touches that record. -/
theorem Separated.patch (separated : heap.Separated) {handle : Handle} {placement : Placement}
    (known : heap.handles.resolve handle = some placement) (start : Nat) (source : List UInt8) :
    Touches (· = handle) heap (patch placement.block start source heap).state := by
  unfold Heap.patch
  split
  · exact separated.write known (Arena.onlyIn_overwrite ..)
  · exact separated.idle

/-- Work on the record of a handle, once it was found. -/
theorem keeps_on_record {next : Block → HeapAction β} {handle : Handle} {kind : RecordKind}
    (rest : ∀ heap placement, heap.Separated → heap.handles.resolve handle = some placement →
      Touches writes heap (next placement.block heap).state) :
    (look (·.record handle kind) >>= next).Keeps (Touching writes) := by
  refine ⟨fun heap separated => separated.look_bind fun block found => ?_⟩
  obtain ⟨placement, known, rfl, -⟩ := record_eq_ok found
  exact rest heap placement separated known

theorem touches_set {layout : Layout} {scalar : Scalar} (handle : Handle)
    (field : Field layout scalar) (value : scalar.Carrier Handle) :
    (set handle field value).Keeps (Touching (· = handle)) :=
  keeps_on_record fun _ _ separated known => separated.patch known ..

theorem touches_setSlot (storage : Handle) (index : UInt32) (slot : Slot Handle) :
    (setSlot storage index slot).Keeps (Touching (· = storage)) :=
  keeps_on_record fun _ _ separated known =>
    separated.look_bind fun _ _ => separated.patch known ..

theorem touches_setCell (values : Handle) (index : UInt32) (value : Value Handle) :
    (setCell values index value).Keeps (Touching (· = values)) :=
  keeps_on_record fun _ _ separated known =>
    separated.look_bind fun _ _ => separated.patch known ..

theorem touches_overwrite (handle : Handle) (start : Nat) (source : List UInt8) :
    (overwrite handle start source).Keeps (Touching (· = handle)) := by
  refine ⟨fun heap separated => separated.look_bind fun found same => ?_⟩
  cases found with
  | none => exact separated.idle
  | some placement =>
    have known : heap.handles.resolve handle = some placement := Except.ok.inj same
    by_cases held : heap.arena.holds placement.block = true
    · have changed := separated.write known
        (Arena.onlyIn_overwrite heap.arena placement.block start source)
      simpa only [changeArena, if_pos held] using changed
    · simpa only [changeArena, if_neg held] using separated.idle

/-! ## 4. Pins -/

theorem touches_setPinned (handle : Handle) (pinned : Bool) :
    (setPinned handle pinned).Keeps (Touching (· = handle)) := by
  refine ⟨fun heap separated => separated.look_bind fun placement found => ?_⟩
  have known := placement_eq_ok found
  have live : heap.handles.isLive handle = true := HandleTable.isLive_iff.mpr ⟨placement, known⟩
  exact separated.repin known pinned fun other => HandleTable.resolve_relocate live _ other

/-! ## 5. Buckets -/

theorem touches_hashShape (shape : Handle) :
    (hashShape shape).Keeps (Touching (· = shape)) := by
  refine keeps_bind (keeps_look _) fun hashed => ?_
  split
  · exact keeps_pure _
  · exact keeps_bind (keeps_look _) fun _ => keeps_bind (keeps_look _) fun _ =>
      keeps_bind (touches_set ..) fun _ => keeps_bind (touches_set ..) fun _ =>
        keeps_onBuckets fun _ => rfl

/-- The shape after another one on its chain. -/
def follower (heap : Heap) (shape : Handle) : Handle :=
  match (heap.get shape ShapeField.hashNext).answer with
  | .ok next => next
  | .error _ => .null

/-- The shapes on the chain of a bucket, by their distance from the front. -/
def linked (heap : Heap) (bucket : Nat) : (distance : Nat) → Handle
  | 0 => heap.buckets.head bucket
  | distance + 1 => heap.follower (heap.linked bucket distance)

/-- `previous` stands right before `shape` on the chain of the bucket that the hash of `shape`
selects, where that chain comes to `shape` for the first time. -/
def Precedes (heap : Heap) (previous shape : Handle) : Prop :=
  ∃ hash distance, (heap.tryGet shape ShapeField.hash).answer = .ok hash ∧
    heap.linked (heap.bucketOf hash) distance = previous ∧
    heap.linked (heap.bucketOf hash) (distance + 1) = shape ∧
    ∀ nearer ≤ distance, heap.linked (heap.bucketOf hash) nearer ≠ shape

/-- The search for the shape before `shape` goes along the chain. -/
theorem predecessor_eq_ok {shape previous found : Handle} {bucket remaining distance : Nat}
    (before : ∀ nearer < distance, heap.linked bucket nearer ≠ shape)
    (h : (heap.predecessor shape remaining previous (heap.linked bucket distance)).answer =
      .ok found) :
    (found = previous ∧ heap.linked bucket distance = shape) ∨
      ∃ last, found = heap.linked bucket last ∧ heap.linked bucket (last + 1) = shape ∧
        ∀ nearer ≤ last, heap.linked bucket nearer ≠ shape := by
  induction remaining generalizing previous distance with
  | zero =>
    unfold predecessor at h
    split at h
    · next here => exact .inl ⟨(Except.ok.inj h).symm, here⟩
    · split at h <;> cases h
  | succ remaining ih =>
    unfold predecessor at h
    split at h
    · next here => exact .inl ⟨(Except.ok.inj h).symm, here⟩
    · next differ =>
      split at h
      · cases h
      · obtain ⟨next, read, rest⟩ := Report.bind_eq_ok h
        -- The search reads the link that `linked` follows.
        have step : heap.linked bucket (distance + 1) = next := by
          simp only [linked, follower, read]
        have nearer : ∀ nearer < distance + 1, heap.linked bucket nearer ≠ shape := by
          intro nearer less
          rcases Nat.lt_or_eq_of_le (Nat.le_of_lt_succ less) with before' | rfl
          · exact before nearer before'
          · exact differ
        rw [← step] at rest
        rcases ih nearer rest with ⟨rfl, here⟩ | later
        · exact .inr ⟨distance, rfl, here, fun _ le => nearer _ (Nat.lt_succ_of_le le)⟩
        · exact .inr later

theorem precedes_of_predecessor {shape previous : Handle} {hash : UInt32}
    (read : (heap.tryGet shape ShapeField.hash).answer = .ok hash)
    (searched : (heap.predecessor shape heap.chainLimit .null
      (heap.buckets.head (heap.bucketOf hash))).answer = .ok previous)
    (found : ¬ previous.isNull = true) : heap.Precedes previous shape := by
  have front : ∀ nearer < 0, heap.linked (heap.bucketOf hash) nearer ≠ shape :=
    fun _ less => absurd less (Nat.not_lt_zero _)
  rcases predecessor_eq_ok front searched with ⟨rfl, -⟩ | ⟨last, rfl, next, nearer⟩
  · exact absurd rfl found
  · exact ⟨hash, last, read, rfl, next, nearer⟩

theorem touches_unmark (shape : Handle) : (unmark shape).Keeps (Touching (· = shape)) :=
  keeps_bind (touches_set ..) fun _ => keeps_bind (touches_set ..) fun _ =>
    keeps_bind keeps_countUnhashed fun _ => keeps_pure _

/-- A null-like handle stands for the bucket, so no record is linked anew. -/
theorem touches_passOver (shape : Handle) (hash : UInt32) (next previous : Handle) :
    (passOver shape hash next previous).Keeps
      (Touching fun handle => handle = shape ∨ (handle = previous ∧ ¬ previous.isNull = true)) := by
  unfold passOver
  split
  · exact keeps_bind (keeps_onBuckets fun _ => rfl) fun _ =>
      touches_of_fewer (touches_unmark shape) .inl
  · next inner =>
    exact keeps_bind (touches_of_fewer (touches_set ..) fun same => .inr ⟨same, inner⟩) fun _ =>
      touches_of_fewer (touches_unmark shape) .inl

/-- Taking a shape out of its bucket touches the shape and the one before it. -/
theorem touches_unhashShape (separated : heap.Separated) (shape : Handle) :
    Touches (fun handle => handle = shape ∨ heap.Precedes handle shape) heap
      (unhashShape shape heap).state := by
  rw [unhashShape_eq]
  refine separated.look_bind fun hashed _ => ?_
  split
  · refine separated.look_bind fun hash hashRead => separated.look_bind fun next _ =>
      separated.look_bind fun previous searched => ?_
    refine (touches_of_fewer (touches_passOver ..) fun written => ?_).step heap separated
    rcases written with own | ⟨rfl, inner⟩
    · exact .inl own
    · exact .inr (precedes_of_predecessor hashRead searched inner)
  · exact separated.idle

/-! ## 6. Ending a record -/

theorem touches_end (handle : Handle) :
    (onTable (HandleTable.invalidate handle)).Keeps (Touching (· = handle)) :=
  ⟨fun heap separated => by
    have resolve := HandleTable.resolve_invalidate handle heap.handles
    refine separated.forget (fun {other p} live => ?_) fun {other} differ =>
      (resolve other).trans (if_neg differ)
    rw [resolve] at live
    split at live
    · cases live
    · exact live⟩

/-- Whether a handle names a shape that is marked as one in a bucket. -/
def IsHashed (heap : Heap) (shape : Handle) : Prop :=
  heap.kind? shape = some .shape ∧ (heap.get shape ShapeField.isHashed).answer = .ok true

theorem touches_invalidate (separated : heap.Separated) (handle : Handle) :
    Touches (fun other => other = handle ∨ (heap.IsHashed handle ∧ heap.Precedes other handle)) heap
      (invalidate handle heap).state := by
  refine separated.look_bind fun kind ofKind => ?_
  have touches_ended : (onTable (HandleTable.invalidate handle)).Keeps (Touching fun other =>
      other = handle ∨ (heap.IsHashed handle ∧ heap.Precedes other handle)) :=
    touches_of_fewer (touches_end handle) .inl
  split
  · next shape =>
    refine separated.look_bind fun hashed marked => ?_
    split
    · next set =>
      have isHashed : heap.IsHashed handle := ⟨(Except.ok.inj ofKind).trans shape, set ▸ marked⟩
      have first := (touches_unhashShape separated handle).mono
        (Or.imp_right fun before => And.intro isHashed before)
      rw [← state_attempt] at first
      refine first.bind fun outcome => ?_
      cases outcome with
      | ok _ => exact touches_ended
      | error e => exact keeps_bind (keeps_emit _) fun _ => touches_ended
    · exact touches_ended.step heap separated
  · exact touches_ended.step heap separated

end HandleHeap.Heap
