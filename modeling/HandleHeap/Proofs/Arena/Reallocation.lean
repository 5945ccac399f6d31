import HandleHeap.Proofs.Arena.Reservation
import HandleHeap.Proofs.Record.Window

/-!
# What a reallocated block reads as

Moving a block takes a fresh one, which is cleared first. So whatever was stored there before, the
fresh block reads as the old one, cut or followed by zeros, or as zeros if the old one is refused.

* `holds_of_allocate`: a block that is handed out may be read and written.
* `bytes?_reallocate_of_held`, `bytes?_reallocate_of_refused`: the two cases for the old block.
-/

namespace HandleHeap.Arena

variable {arena : Arena} {size : Nat} {old fresh : Block}

/-! ## 1. A fresh block -/

/-- Asking for a block stores nothing and starts no epoch. -/
theorem allocate_same (arena : Arena) (size : Nat) :
    (allocate size arena).state.memory = arena.memory ∧
      ∀ block, (allocate size arena).state.holds block = arena.holds block := by
  obtain ⟨used, moved⟩ := exists_state_allocate arena size
  rw [moved]
  exact ⟨rfl, fun _ => rfl⟩

/-- A block that is handed out is held, and as long as was asked for. -/
theorem holds_of_allocate (given : (allocate size arena).answer = .ok fresh) :
    fresh.len = size ∧ (allocate size arena).state.holds fresh = true := by
  obtain ⟨pos, fits, rfl⟩ := allocate_eq_ok_iff.mp given
  obtain ⟨padded, ready, -⟩ := asked_eq_of_pos pos
  have room := (padded?_eq_some_iff.mp padded).2.2.1
  have inside : arena.used + size ≤ arena.capacity := by omega
  rw [(allocate_same arena size).2]
  exact ⟨rfl, holds_iff.mpr ⟨ready, rfl, inside⟩⟩

theorem bytes?_of_holds (held : arena.holds old = true) :
    arena.bytes? old = some (arena.memory.read old.offset old.len) := if_pos held

theorem read_of_bytes? {bytes : List UInt8} (known : arena.bytes? old = some bytes) :
    arena.memory.read old.offset old.len = bytes := by
  unfold bytes? at known
  split at known
  · exact Option.some.inj known
  · cases known

theorem read_clear_of_holds (held : arena.holds old = true) :
    (arena.clear old).memory.read old.offset old.len = List.replicate old.len 0 := by
  rw [← Memory.read_clear arena.memory old.offset]
  simp only [clear, if_pos held]

/-! ## 2. Copying into it -/

/-- Copying a block that shares no byte with the target, into zeros. -/
theorem read_copy {source target : Block} (held : arena.holds source = true)
    (held' : arena.holds target = true)
    (zeros : arena.memory.read target.offset target.len = List.replicate target.len 0) :
    ((arena.copy source target target.len).1.isSome = true) ∧
      (arena.copy source target target.len).2.memory.read target.offset target.len =
        fitted (arena.memory.read source.offset source.len) target.len := by
  have count : min target.len (min source.len target.len) = min target.len source.len := by omega
  simp only [copy, held, held', Bool.and_self, if_true, count, ← Memory.take_read,
    Memory.read_write_zeros zeros, Option.isSome_some, and_self]

/-- The fresh block reads as the old one, cut or followed by zeros. -/
theorem bytes?_reallocate_of_held (given : (allocate size arena).answer = .ok fresh)
    (held : arena.holds old = true) (apart : old.Disjoint fresh) :
    (reallocate (some old) size arena).state.bytes? fresh =
      some (fitted (arena.memory.read old.offset old.len) size) := by
  obtain ⟨rfl, held'⟩ := holds_of_allocate given
  obtain ⟨stored, holds⟩ := allocate_same arena fresh.len
  have cleared := onlyIn_clear (allocate fresh.len arena).state fresh
  -- Neither the request nor the clearing shows in the old block.
  have kept : (allocate fresh.len arena).state.bytes? old = arena.bytes? old := by
    rw [bytes?, holds, stored]
    rfl
  have source := (cleared.bytes?_eq apart).trans kept
  have holds' : ((allocate fresh.len arena).state.clear fresh).holds old = true := by
    rw [cleared.holds_eq, holds, held]
  rw [bytes?_of_holds holds', bytes?_of_holds held] at source
  have target := (cleared.holds_eq fresh).trans held'
  have copied := (read_copy holds' target (read_clear_of_holds held')).2
  have held'' := ((onlyIn_copy _ old fresh fresh.len).holds_eq fresh).trans target
  rw [reallocate_of_ok old given held', bytes?_of_holds held'', copied, Option.some.inj source]

/-- With an old block that is refused, the fresh one reads as zeros. -/
theorem bytes?_reallocate_of_refused (given : (allocate size arena).answer = .ok fresh)
    (refused : arena.holds old = false) :
    (reallocate (some old) size arena).state.bytes? fresh = some (List.replicate size 0) := by
  obtain ⟨rfl, held'⟩ := holds_of_allocate given
  have cleared := onlyIn_clear (allocate fresh.len arena).state fresh
  have target := (cleared.holds_eq fresh).trans held'
  have out : ((allocate fresh.len arena).state.clear fresh).holds old = false := by
    rw [cleared.holds_eq, (allocate_same arena fresh.len).2, refused]
  rw [reallocate_of_ok old given held', copy, out, Bool.false_and, if_neg Bool.false_ne_true,
    bytes?_of_holds target, read_clear_of_holds held']

end HandleHeap.Arena
