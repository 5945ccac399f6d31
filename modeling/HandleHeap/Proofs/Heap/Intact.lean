import HandleHeap.Proofs.Arena.Confinement
import HandleHeap.Proofs.Heap.Invariants
import HandleHeap.Proofs.Heap.View
import HandleHeap.Proofs.Root.Accounting

/-!
# What rules faults out

A fault is what an operation ends in that would otherwise go on with a wrong number or a byte
outside its record. Whatever was stored in the records, and however the offset of the arena moved,
the accounts of a heap agree and each of its records has a length that its kind allows. That is
enough for all that is ever read of it.

* `Intact`: the accounts agree, records are as long as they may be, and bytes are inside the arena.
* `Report.Faultless`: a report that may be refused but does not fault.
* `faultless_trySlot`, `Intact.tryGet`, `Intact.tryElement`, `Intact.predecessor`: what is read of
  an intact heap.
-/

namespace HandleHeap

open HandleHeap.Action

/-! ## 1. Faults of a report -/

namespace Report

variable {α β : Type}

/-- A report that may be refused but does not fault. -/
structure Faultless (report : Report Stop α) : Prop where
  answer : ∀ fault, report.answer ≠ .error (.fault fault)

theorem faultless_of_ok {report : Report Stop α} {a : α} (ok : report.answer = .ok a) :
    report.Faultless := ⟨fun _ h => nomatch ok.symm.trans h⟩

theorem faultless_pure (a : α) : (pure a : Report Stop α).Faultless := ⟨nofun⟩

theorem faultless_refuse (e : HeapError) : (refuse e : Report Stop α).Faultless := ⟨nofun⟩

theorem faultless_bind {first : Report Stop α} {next : α → Report Stop β}
    (h : first.Faultless) (rest : ∀ a, first.answer = .ok a → (next a).Faultless) :
    (first >>= next).Faultless := by
  obtain ⟨stop | a, events⟩ := first
  · exact ⟨fun fault same => h.answer fault (congrArg Except.error (Except.error.inj same))⟩
  · exact ⟨(rest a rfl).answer⟩

/-- A refusal is answered by a default, so only a fault would be left. -/
theorem Faultless.withDefault {report : Report Stop α} (h : report.Faultless) (default : α) :
    (report.withDefault default).Faultless := by
  obtain ⟨(error | fault) | a, events⟩ := report
  · exact faultless_of_ok rfl
  · exact ⟨h.answer⟩
  · exact faultless_of_ok rfl

/-- What is answered by a default where it is refused is always answered. -/
theorem exists_answer_withDefault {report : Report Stop α} (h : report.Faultless) (default : α) :
    ∃ a, (report.withDefault default).answer = .ok a := by
  obtain ⟨(error | fault) | a, events⟩ := report
  · exact ⟨default, rfl⟩
  · exact absurd rfl (h.answer fault)
  · exact ⟨a, rfl⟩

end Report

open Report

namespace Heap

/-! ## 2. The invariant -/

/-- What rules faults out: the accounts agree, every record has a length that its kind allows, and
no byte was stored beyond the arena. -/
structure Intact (heap : Heap) : Prop where
  handles : heap.handles.Accounted
  roots : heap.roots.Accounted
  allowed : ∀ {handle placement}, heap.handles.resolve handle = some placement →
    placement.kind.Allows placement.block.len
  confined : heap.arena.Confined

variable {heap : Heap} {α β : Type}

theorem intact_new {grants : Nat → Bool} {config : Config}
    (h : (Heap.new grants config).answer = .ok heap) : heap.Intact := by
  obtain ⟨arena, table, -, -, roots⟩ := new_eq_ok h
  refine ⟨HandleTable.accounted_withCapacity table, roots ▸ RootSet.accounted_empty,
    fun {handle placement} known => ?_, Arena.confined_new arena⟩
  rw [HandleTable.resolve_withCapacity table] at known
  cases known

theorem Intact.withArena (intact : heap.Intact) {arena : Arena} (confined : arena.Confined) :
    Intact { heap with arena } :=
  ⟨intact.handles, intact.roots, intact.allowed, confined⟩

theorem Intact.withBuckets (intact : heap.Intact) (buckets : ShapeBuckets) :
    Intact { heap with buckets } :=
  ⟨intact.handles, intact.roots, intact.allowed, intact.confined⟩

theorem Intact.withRoots (intact : heap.Intact) {roots : RootSet} (accounted : roots.Accounted) :
    Intact { heap with roots } :=
  ⟨intact.handles, accounted, intact.allowed, intact.confined⟩

/-- The record of an object or a shape has the size of its layout. -/
theorem Intact.len_of_layout (intact : heap.Intact) {handle : Handle} {layout : Layout}
    {block : Block} (found : (heap.record handle layout.kind).answer = .ok block) :
    block.len = layout.size := by
  obtain ⟨placement, known, rfl, same⟩ := record_eq_ok found
  exact layout_allows (same ▸ intact.allowed known)

/-! ## 3. Reports -/

theorem faultless_locate (heap : Heap) (handle : Handle) (kind : RecordKind) :
    (heap.locate handle kind).Faultless := by
  unfold locate
  split
  · exact ⟨nofun⟩
  · split <;> exact ⟨nofun⟩

theorem faultless_placement (heap : Heap) (handle : Handle) :
    (heap.placement handle).Faultless := by
  unfold Heap.placement
  split <;> exact ⟨nofun⟩

theorem faultless_record (heap : Heap) (handle : Handle) (kind : RecordKind) :
    (heap.record handle kind).Faultless := by
  refine faultless_bind (faultless_locate ..) fun block _ => ?_
  split <;> exact ⟨nofun⟩

theorem faultless_slice {block : Block} {start len : Nat} (fits : start + len ≤ block.len) :
    (heap.slice block start len).Faultless := by
  rw [slice_eq_pure fits]
  exact faultless_pure _

theorem faultless_cell (len : Nat) (index : UInt32) (stride : Nat) :
    (Report.ofExcept (cell len index stride)).Faultless := by
  unfold cell Report.ofExcept
  simp only
  split <;> exact ⟨nofun⟩

theorem faultless_cellAt {decode : List UInt8 → α} (handle : Handle) (kind : RecordKind)
    (index : UInt32) (stride : Nat) :
    (do
      let block ← heap.record handle kind
      let start ← Report.ofExcept (cell block.len index stride)
      let bytes ← heap.slice block start stride
      return decode bytes : Report Stop α).Faultless :=
  faultless_bind (faultless_record ..) fun _ _ =>
    faultless_bind (faultless_cell ..) fun _ inside =>
      faultless_bind (faultless_slice (cell_eq_ok inside)) fun _ _ => faultless_pure _

theorem faultless_capacity (heap : Heap) (handle : Handle) (kind : RecordKind) (stride : Nat) :
    (Report.withDefault (do
      let block ← heap.record handle kind
      return UInt32.ofNat (block.len / stride)) 0).Faultless :=
  Faultless.withDefault (faultless_bind (faultless_record ..) fun _ _ => faultless_pure _) 0

theorem faultless_trySlot (heap : Heap) (storage : Handle) (index : UInt32) :
    (heap.trySlot storage index).Faultless := faultless_cellAt ..

theorem faultless_slot (heap : Heap) (storage : Handle) (index : UInt32) :
    (heap.slot storage index).Faultless := (faultless_trySlot ..).withDefault _

/-- Reading a field of an intact heap does not leave its record. -/
theorem Intact.tryGet (intact : heap.Intact) {layout : Layout} {scalar : Scalar} (handle : Handle)
    (field : Field layout scalar) : (heap.tryGet handle field).Faultless := by
  refine faultless_bind (faultless_record ..) fun block found =>
    faultless_bind (faultless_slice ?_) fun _ _ => faultless_pure _
  rw [intact.len_of_layout found]
  exact field.fits

/-- A field is read at its address. -/
theorem Intact.tryGet_eq (intact : heap.Intact) {layout : Layout} {scalar : Scalar}
    {handle : Handle} {block : Block}
    (found : (heap.record handle layout.kind).answer = .ok block) (field : Field layout scalar) :
    heap.tryGet handle field =
      pure (scalar.decode (heap.arena.memory.read (block.offset + field.offset) scalar.width)) := by
  have fits : field.offset + scalar.width ≤ block.len := by
    rw [intact.len_of_layout found]
    exact field.fits
  rw [Heap.tryGet, record_eq_pure found, Report.pure_bind, slice, if_pos fits]
  rfl

/-- In a record that is there, what is read with a sentinel is read without. -/
theorem Intact.tryGet_of_record (intact : heap.Intact) {layout : Layout} {scalar : Scalar}
    {handle : Handle} {block : Block} {field : Field layout scalar}
    {value : scalar.Carrier Handle}
    (found : (heap.record handle layout.kind).answer = .ok block)
    (read : (heap.get handle field).answer = .ok value) :
    (heap.tryGet handle field).answer = .ok value := by
  rw [Heap.get, intact.tryGet_eq found] at read
  rw [intact.tryGet_eq found]
  exact read

theorem Intact.tryGet_eq_pure (intact : heap.Intact) {layout : Layout} {scalar : Scalar}
    {handle : Handle} {block : Block} {field : Field layout scalar}
    {value : scalar.Carrier Handle}
    (found : (heap.record handle layout.kind).answer = .ok block)
    (read : (heap.tryGet handle field).answer = .ok value) :
    heap.tryGet handle field = pure value := by
  rw [intact.tryGet_eq found] at read ⊢
  exact congrArg pure (Except.ok.inj read)

theorem Intact.get (intact : heap.Intact) {layout : Layout} {scalar : Scalar} (handle : Handle)
    (field : Field layout scalar) : (heap.get handle field).Faultless :=
  (intact.tryGet handle field).withDefault _

theorem Intact.prototype (intact : heap.Intact) (object : Handle) :
    (heap.prototype object).Faultless := by
  refine faultless_bind (intact.get ..) fun shape _ => ?_
  split
  · exact faultless_pure _
  · exact intact.get ..

/-- A field is always read, if only to be the sentinel of its type. -/
theorem Intact.exists_answer_get (intact : heap.Intact) {layout : Layout} {scalar : Scalar}
    (handle : Handle) (field : Field layout scalar) :
    ∃ value, (heap.get handle field).answer = .ok value :=
  exists_answer_withDefault (intact.tryGet handle field) _

theorem Intact.exists_answer_prototype (intact : heap.Intact) (object : Handle) :
    ∃ next, (heap.prototype object).answer = .ok next := by
  obtain ⟨shape, read⟩ := intact.exists_answer_get object ObjectField.shape
  rw [answer_prototype, answer_bind_of_ok read]
  exact intact.exists_answer_get shape ShapeField.proto

theorem Intact.elementCapacity (intact : heap.Intact) (object : Handle) :
    (heap.elementCapacity object).Faultless := by
  refine faultless_bind (intact.get ..) fun values _ => ?_
  split
  · exact faultless_pure _
  · exact faultless_capacity ..

theorem Intact.elementStorage (intact : heap.Intact) (object : Handle) (index : UInt32) :
    (heap.elementStorage object index).Faultless := by
  refine faultless_bind (intact.tryGet ..) fun count _ => ?_
  split
  · exact faultless_refuse _
  · exact intact.tryGet ..

theorem Intact.tryElement (intact : heap.Intact) (object : Handle) (index : UInt32) :
    (heap.tryElement object index).Faultless :=
  faultless_bind (intact.elementStorage ..) fun _ _ => faultless_cellAt ..

theorem Intact.shapeMatches (intact : heap.Intact) (shape proto : Handle) :
    (heap.shapeMatches shape proto).Faultless := by
  refine faultless_bind (intact.get ..) fun hash _ => ?_
  split
  · exact faultless_pure _
  · refine faultless_bind (intact.get ..) fun found _ => ?_
    split
    · exact faultless_pure _
    · exact faultless_bind (intact.get ..) fun _ _ => faultless_pure _

theorem Intact.findFrom (intact : heap.Intact) (proto : Handle) (remaining : Nat)
    (current : Handle) : (heap.findFrom proto remaining current).Faultless := by
  induction remaining generalizing current with
  | zero =>
    unfold Heap.findFrom
    split <;> exact ⟨nofun⟩
  | succ remaining ih =>
    unfold Heap.findFrom
    split
    · exact faultless_pure _
    · refine faultless_bind (intact.shapeMatches ..) fun found _ => ?_
      split
      · exact faultless_pure _
      · exact faultless_bind (intact.get ..) fun next _ => ih next

theorem Intact.predecessor (intact : heap.Intact) (shape : Handle) (remaining : Nat)
    (previous current : Handle) :
    (heap.predecessor shape remaining previous current).Faultless := by
  induction remaining generalizing previous current with
  | zero =>
    unfold Heap.predecessor
    split
    · exact faultless_pure _
    · split <;> exact faultless_refuse _
  | succ remaining ih =>
    unfold Heap.predecessor
    split
    · exact faultless_pure _
    · split
      · exact faultless_refuse _
      · exact faultless_bind (intact.get ..) fun next _ => ih current next

end Heap

end HandleHeap
