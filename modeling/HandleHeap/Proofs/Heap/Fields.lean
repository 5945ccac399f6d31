import HandleHeap.Proofs.Arena.Reallocation
import HandleHeap.Proofs.Heap.Alignment

/-!
# Reading after writing in a record

Setting a field replaces the bytes of the field and no others of its record. What any field then
holds is what it spells in those bytes: the value that was stored, what it held before if the two
fields are apart, and the overlap of old and new bytes otherwise. This needs neither that records
are apart nor that requests stayed below 64 bits.

* `held_of_reached`: the arena holds the block of every record that a session reaches.
* `Intact.get_eq`: a field is read from the bytes of its record.
* `set_then_get`: all fields of a record after one of them was set.
-/

namespace HandleHeap

open HandleHeap.Action

namespace Heap

variable {heap : Heap} {handle : Handle} {layout : Layout} {scalar : Scalar}

/-! ## 1. Records that are held -/

/-- A block that is handed out is held until the arena is rewound. -/
instance : Arena.Lasting fun arena block => arena.holds block = true where
  given _ given := (Arena.holds_of_allocate given).2
  request size held := ((Arena.allocate_same _ size).2 _).trans held
  content changed held := (changed.holds_eq _).trans held

/-- The arena holds the block of every record. -/
theorem held_of_reached {config : Config} {requested : Nat}
    (reached : Reached config requested heap) :
    heap.BlocksAre fun arena block => arena.holds block = true :=
  blocksAre_of_reached reached

/-- A live handle of a kind has a record of that kind. -/
theorem BlocksAre.exists_record {kind : RecordKind}
    (held : heap.BlocksAre fun arena block => arena.holds block = true)
    (live : heap.kind? handle = some kind) :
    ∃ block, (heap.record handle kind).answer = .ok block := by
  obtain ⟨placement, known, ofKind⟩ := kind?_eq_some live
  refine ⟨placement.block, ?_⟩
  simp only [record, locate, known, if_pos ofKind, Report.pure_bind, if_pos (held.block known)]
  rfl

theorem bytes?_of_record {kind : RecordKind} {block : Block}
    (found : (heap.record handle kind).answer = .ok block) :
    heap.bytes? handle = some (heap.arena.memory.read block.offset block.len) := by
  have held := held_of_record found
  obtain ⟨placement, known, rfl, -⟩ := record_eq_ok found
  rw [bytes?, known]
  exact Arena.bytes?_of_holds held

/-! ## 2. A field that is set -/

section Record

variable {block : Block}

/-- A field is read from the bytes of its record. -/
theorem Intact.get_eq (intact : heap.Intact)
    (found : (heap.record handle layout.kind).answer = .ok block) (field : Field layout scalar) :
    heap.get handle field =
      pure (field.read (heap.arena.memory.read block.offset block.len)) := by
  have fits : field.offset + scalar.width ≤ block.len := by
    rw [intact.len_of_layout found]
    exact field.fits
  rw [Heap.get, intact.tryGet_eq found, Field.read, Memory.window_read _ fits]
  rfl

/-- The bytes of a record where a field was stored. -/
theorem Intact.read_stored (intact : heap.Intact)
    (found : (heap.record handle layout.kind).answer = .ok block) (field : Field layout scalar)
    (value : scalar.Carrier Handle) :
    (heap.stored (block.offset + field.offset) (scalar.encode value)).arena.memory.read
        block.offset block.len =
      field.write value (heap.arena.memory.read block.offset block.len) := by
  have whole : (scalar.encode value).take (block.len - field.offset) = scalar.encode value := by
    rw [intact.len_of_layout found, field.take_encode]
  rw [Field.write, ← Memory.read_write, whole]
  rfl

end Record

/-- Setting a field of a record that is there answers, and its little-endian bytes are then in the
record in place of those that were in the field. The field reads as the value, and every field as
what it spells in the new bytes, which for one apart from it is what it held. -/
theorem set_then_get {config : Config} {requested : Nat} (reached : Reached config requested heap)
    (live : heap.kind? handle = some layout.kind) (field : Field layout scalar)
    (value : scalar.Carrier Handle) :
    ∃ before record : List UInt8, ∃ after : Heap,
      heap.bytes? handle = some before ∧ before.length = layout.size ∧
      set handle field value heap = ⟨.ok (), after, []⟩ ∧
      record = before.take field.offset ++
        LittleEndian.encode scalar.width (scalar.number value) ++
        before.drop (field.offset + scalar.width) ∧
      after.bytes? handle = some record ∧
      after.get handle field = pure value ∧
      ∀ {scalar' : Scalar} (other : Field layout scalar'),
        heap.get handle other = pure (other.read before) ∧
        after.get handle other = pure (other.read record) ∧
        (other.Apart field → after.get handle other = heap.get handle other) := by
  have intact := intact_of_reached reached
  obtain ⟨block, found⟩ := (held_of_reached reached).exists_record live
  have intact' := intact.stored found field value
  have found' : ((heap.stored (block.offset + field.offset) (scalar.encode value)).record handle
      layout.kind).answer = .ok block := found
  have bytes := bytes?_of_record found
  have bytes' := bytes?_of_record found'
  have reads {scalar' : Scalar} (other : Field layout scalar') := intact.get_eq found other
  have reads' {scalar' : Scalar} (other : Field layout scalar') := intact'.get_eq found' other
  have whole : (heap.arena.memory.read block.offset block.len).length = layout.size := by
    rw [Memory.length_read, intact.len_of_layout found]
  rw [intact.read_stored found field value] at bytes' reads'
  refine ⟨_, _, _, bytes, whole, intact.set_eq found field value, field.write_eq value whole,
    bytes', ?_, fun other => ⟨reads other, reads' other, fun apart => ?_⟩⟩
  · rw [reads', field.read_write value whole]
  · rw [reads, reads', field.read_write_apart value apart]

/-- A number of four bytes, read whole, in part and beside its bytes. -/
theorem set_then_get_small :
    let heap := newSmall.run smallSession
    let second : Field .object .u8 := ⟨ObjectField.arrayCount.offset + 1, "second", by decide⟩
    Reached { arenaCapacity := 1024 } (runCounting 0 newSmall smallSession).1 heap ∧
      heap.kind? ⟨2, 0⟩ = some .object ∧
      ∃ after, set ⟨2, 0⟩ ObjectField.arrayCount 0x01020304 heap = ⟨.ok (), after, []⟩ ∧
        after.get ⟨2, 0⟩ ObjectField.arrayCount = pure 0x01020304 ∧
        after.get ⟨2, 0⟩ second = pure 3 ∧
        after.get ⟨2, 0⟩ ObjectField.shape = heap.get ⟨2, 0⟩ ObjectField.shape := by
  intro heap second
  have live : heap.kind? ⟨2, 0⟩ = some Layout.object.kind := by decide +kernel
  obtain ⟨before, record, after, -, whole, run, spelled, -, same, reads⟩ :=
    set_then_get reached_smallSession live ObjectField.arrayCount 0x01020304
  refine ⟨reached_smallSession, live, after, run, same, ?_, (reads _).2.2 (by decide)⟩
  have stored : record.drop 28 = [4, 3, 2, 1] ++ before.drop 32 := by
    rw [spelled, List.append_assoc]
    exact List.drop_left' (List.length_take_of_le (whole ▸ by decide))
  have byte : window record second.offset 1 = [3] := by
    rw [window, show second.offset = 28 + 1 from rfl, ← List.drop_drop, stored]
    rfl
  rw [(reads second).2.1, Field.read, show Scalar.u8.width = 1 from rfl, byte]
  rfl

end Heap

end HandleHeap
