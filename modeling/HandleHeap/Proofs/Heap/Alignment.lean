import HandleHeap.Proofs.Heap.Blocks
import HandleHeap.Proofs.Heap.Safety

/-!
# Where records start

Blocks are handed out at multiples of `alignment`, also when the offset of the arena went around
its 64 bits and records came to overlap. Fields of overlapping records are then at the same
address or apart, as far as the offsets of the fields tell.

* `Aligned`: every record starts at a multiple of `alignment`, and so would the next block.
* `aligned_of_reached`: this holds of every heap that a session reaches.
* `Intact.set_eq`: a field is stored at an address.
-/

namespace HandleHeap

open HandleHeap.Action

namespace Heap

variable {heap : Heap}

/-! ## 1. Aligned heaps -/

/-- Every record starts at a multiple of `alignment`, and so would the next block. -/
structure Aligned (heap : Heap) : Prop where
  regular : heap.arena.Regular
  offset : ∀ {handle placement}, heap.handles.resolve handle = some placement →
    placement.block.offset % alignment = 0

/-- A block is handed out at the offset of the arena, and is never moved. -/
instance : Arena.Lasting fun _ block => block.offset % alignment = 0 where
  given regular given := by
    rw [(Arena.reservedEnd_of_allocate given).1]
    exact regular.aligned
  request _ start := start
  content _ start := start

theorem aligned_of_reached {config : Config} {requested : Nat}
    (reached : Reached config requested heap) : heap.Aligned :=
  have are : heap.BlocksAre fun _ block => block.offset % alignment = 0 :=
    blocksAre_of_reached reached
  ⟨are.regular, are.block⟩

end Heap

/-! ## 2. Memory -/

namespace Memory

/-- The bytes that were written are read back. -/
theorem read_write_same (memory : Memory) (start : Nat) (source : List UInt8) :
    (memory.write start source).read start source.length = source := by
  have written := read_write memory start source.length 0 source
  rw [Nat.add_zero, Nat.sub_zero, List.take_length] at written
  rw [written]
  exact splice_whole (memory.length_read start source.length).symm

/-- Bytes apart from those that were written are read as before. -/
theorem read_write_apart (memory : Memory) {start other len : Nat} {source : List UInt8}
    (apart : other + len ≤ start ∨ start + source.length ≤ other) :
    (memory.write start source).read other len = memory.read other len := by
  refine read_congr fun address low high => ?_
  rw [get_write, if_neg]
  rintro ⟨above, below⟩
  rcases apart with before | behind
  · exact absurd high (Nat.not_lt_of_le (before.trans above))
  · exact absurd below (Nat.not_lt_of_le (behind.trans low))

end Memory

/-! ## 3. Fields at their addresses -/

namespace Heap

variable {heap : Heap} {layout other : Layout} {scalar scalar' : Scalar}

/-- The heap with other bytes at an address. -/
def stored (heap : Heap) (address : Nat) (bytes : List UInt8) : Heap :=
  { heap with arena := { heap.arena with memory := heap.arena.memory.write address bytes } }

section Stored

variable (address : Nat) (bytes : List UInt8)

theorem buckets_stored : (heap.stored address bytes).buckets = heap.buckets := rfl

/-- Other bytes do not move a record. -/
theorem record_stored (handle : Handle) (kind : RecordKind) :
    (heap.stored address bytes).record handle kind = heap.record handle kind := rfl

end Stored

/-- A field is stored at its address. -/
theorem Intact.set_eq (intact : heap.Intact) {handle : Handle} {block : Block}
    (found : (heap.record handle layout.kind).answer = .ok block) (field : Field layout scalar)
    (value : scalar.Carrier Handle) :
    set handle field value heap =
      ⟨.ok (), heap.stored (block.offset + field.offset) (scalar.encode value), []⟩ := by
  have whole := intact.len_of_layout found
  have fits : field.offset + (scalar.encode value).length ≤ block.len := by
    rw [scalar.length_encode, whole]
    exact field.fits
  rw [set, look_bind_of_pure (Heap.record · handle layout.kind) (record_eq_pure found), patch,
    if_pos fits]
  simp only [changeArena, Arena.overwrite, if_pos (held_of_record found), whole, field.take_encode]
  rfl

theorem Intact.stored (intact : heap.Intact) {handle : Handle} {block : Block}
    (found : (heap.record handle layout.kind).answer = .ok block) (field : Field layout scalar)
    (value : scalar.Carrier Handle) :
    (heap.stored (block.offset + field.offset) (scalar.encode value)).Intact := by
  have fair := (safe_set handle field value).fair heap intact
  rw [intact.set_eq found] at fair
  exact fair.intact

theorem Aligned.stored (aligned : heap.Aligned) (address : Nat) (bytes : List UInt8) :
    (heap.stored address bytes).Aligned :=
  ⟨⟨aligned.regular.capacity_lt, aligned.regular.used_lt, aligned.regular.aligned⟩,
    aligned.offset⟩

end Heap

end HandleHeap
