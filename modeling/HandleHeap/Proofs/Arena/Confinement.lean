import HandleHeap.Proofs.Arena.Contents
import HandleHeap.Proofs.Arena.Reservation

/-!
# Bytes stay inside the arena

An arena stores bytes only in blocks that it holds, and those lie inside it. Beyond the capacity
nothing is ever stored, whichever blocks it is asked to change and wherever its offset went.

* `Confined`: no byte beyond the capacity was stored. `Confined.overwrite`, `Confined.clear`,
  `Confined.copy`, `Confined.reallocate` keep it.
* `len_of_requests`: the length of a block that was asked for.
-/

namespace HandleHeap.Arena

/-- No byte beyond the capacity was stored. -/
def Confined (arena : Arena) : Prop :=
  ∀ address, arena.capacity ≤ address → arena.memory.get address = 0

theorem confined_new {grants : Nat → Bool} {capacity : Nat} {arena : Arena}
    (h : (new grants capacity).answer = .ok arena) :
    arena.Confined := by
  rw [eq_of_new h]
  exact fun _ _ => rfl

variable {arena : Arena}

/-! ## 1. Changes to a block -/

theorem end_of_holds {block : Block} (held : arena.holds block = true) :
    block.offset + block.len ≤ arena.capacity := (holds_iff.mp held).2.2

/-- A change to bytes of a block that is held stays inside the arena. -/
theorem Confined.onlyIn (confined : arena.Confined) {block : Block} {after : Arena}
    (held : arena.holds block = true) (changed : OnlyIn block arena after) : after.Confined := by
  intro address beyond
  have stop := end_of_holds held
  rw [changed.capacity] at beyond
  rw [changed.elsewhere address (.inr (by omega))]
  exact confined address beyond

theorem Confined.overwrite (confined : arena.Confined) (block : Block) (start : Nat)
    (source : List UInt8) : (arena.overwrite block start source).Confined := by
  by_cases held : arena.holds block = true
  · exact confined.onlyIn held (onlyIn_overwrite ..)
  · rw [Arena.overwrite, if_neg held]
    exact confined

theorem Confined.clear (confined : arena.Confined) (block : Block) :
    (arena.clear block).Confined := by
  by_cases held : arena.holds block = true
  · exact confined.onlyIn held (onlyIn_clear ..)
  · rw [Arena.clear, if_neg held]
    exact confined

theorem Confined.copy (confined : arena.Confined) (source target : Block) (len : Nat) :
    (arena.copy source target len).2.Confined := by
  by_cases held : arena.holds target = true
  · exact confined.onlyIn held (onlyIn_copy ..)
  · rw [Arena.copy, Bool.eq_false_iff.mpr held, Bool.and_false]
    exact confined

/-! ## 2. Requests -/

/-- A request for a block stores nothing. -/
theorem Confined.allocate (confined : arena.Confined) (size : Nat) :
    (Arena.allocate size arena).state.Confined := by
  obtain ⟨used, moved⟩ := exists_state_allocate arena size
  rw [moved]
  exact confined

theorem Confined.reallocate (confined : arena.Confined) (old : Block) (size : Nat) :
    (Arena.reallocate (some old) size arena).state.Confined := by
  have asked := confined.allocate size
  cases given : (Arena.allocate size arena).answer with
  | error cause =>
    rw [reallocate_of_error _ given]
    exact asked
  | ok fresh =>
    by_cases held : (Arena.allocate size arena).state.holds fresh = true
    · rw [reallocate_of_ok old given held]
      exact (asked.clear fresh).copy old fresh size
    · rw [(reallocate_of_lost old given held).2]
      exact asked

/-- A block has the length that was asked for, which was not 0. -/
theorem len_of_requests {ε : Type} {size : Nat} {action : Action ε Arena Block}
    (requests : Requests size action) {block : Block} (ok : (action arena).answer = .ok block) :
    0 < size ∧ block.len = size := by
  obtain ⟨pos, -, rfl⟩ := allocate_eq_ok_iff.mp (requests.ok ok).1
  exact ⟨(asked_eq_of_pos pos).2.2.1, rfl⟩

/-! ## 3. Rewinding -/

theorem Confined.reset {ε : Type} (confined : arena.Confined) :
    (Arena.reset (ε := ε) arena).state.Confined := confined

theorem Confined.teardown {ε : Type} (confined : arena.Confined) :
    (Arena.teardown (ε := ε) arena).state.Confined := by
  unfold Arena.teardown
  split
  · exact fun _ _ => rfl
  · exact confined

end HandleHeap.Arena
