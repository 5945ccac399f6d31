import HandleHeap.Arena.Reallocate
import Mathlib.Algebra.Order.Ring.Nat

/-!
# What a block reads as

Overwriting, clearing and copying into a block change bytes of that block and nothing else, so a
block that shares no byte with it reads as before.

* `Arena.OnlyIn block before after`: `after` differs from `before` in bytes of `block` alone.
* `onlyIn_overwrite`, `onlyIn_clear`, `onlyIn_copy`: the three ways in which bytes change.
* `OnlyIn.bytes?_eq`: another block keeps its bytes.
-/

namespace HandleHeap

/-! ## Blocks -/

namespace Block

/-- Two blocks have no byte in common, padding included. -/
def Disjoint (a b : Block) : Prop :=
  a.reservedEnd ≤ b.offset ∨ b.reservedEnd ≤ a.offset

theorem Disjoint.symm {a b : Block} (h : a.Disjoint b) : b.Disjoint a := Or.symm h

theorem len_le_reserved (block : Block) : block.offset + block.len ≤ block.reservedEnd := by
  unfold reservedEnd
  cases h : padded? block.len with
  | none => simp
  | some padded =>
    have := (padded?_eq_some_iff.mp h).2.2.1
    simp only [Option.getD_some]
    omega

theorem reservedEnd_eq {block : Block} {padded : Nat} (h : padded? block.len = some padded) :
    block.reservedEnd = block.offset + padded := by
  simp [reservedEnd, h]

end Block

namespace Memory

theorem read_congr {memory memory' : Memory} {start len : Nat}
    (h : ∀ address, start ≤ address → address < start + len →
      memory'.get address = memory.get address) :
    memory'.read start len = memory.read start len := by
  apply List.map_congr_left
  intro address member
  obtain ⟨i, inside, rfl⟩ := List.mem_range'.mp member
  exact h _ (by omega) (by omega)

end Memory

namespace Arena

/-! ## Changes inside one block -/

/-- `after` differs from `before` in bytes of `block` alone. -/
structure OnlyIn (block : Block) (before after : Arena) : Prop where
  capacity : after.capacity = before.capacity
  used : after.used = before.used
  epoch : after.epoch = before.epoch
  initialized : after.initialized = before.initialized
  elsewhere : ∀ address, address < block.offset ∨ block.offset + block.len ≤ address →
    after.memory.get address = before.memory.get address

theorem OnlyIn.refl (block : Block) (arena : Arena) : OnlyIn block arena arena :=
  ⟨rfl, rfl, rfl, rfl, fun _ _ => rfl⟩

theorem OnlyIn.trans {block : Block} {a b c : Arena} (first : OnlyIn block a b)
    (second : OnlyIn block b c) : OnlyIn block a c where
  capacity := second.capacity.trans first.capacity
  used := second.used.trans first.used
  epoch := second.epoch.trans first.epoch
  initialized := second.initialized.trans first.initialized
  elsewhere address outside :=
    (second.elsewhere address outside).trans (first.elsewhere address outside)

theorem onlyIn_overwrite (arena : Arena) (block : Block) (start : Nat) (source : List UInt8) :
    OnlyIn block arena (arena.overwrite block start source) := by
  unfold overwrite
  split
  · refine ⟨rfl, rfl, rfl, rfl, fun address outside => ?_⟩
    show (arena.memory.write _ _).get address = _
    rw [Memory.get_write, if_neg]
    simp only [List.length_take]
    omega
  · exact .refl block arena

theorem onlyIn_clear (arena : Arena) (block : Block) : OnlyIn block arena (arena.clear block) := by
  unfold clear
  split
  · refine ⟨rfl, rfl, rfl, rfl, fun address outside => ?_⟩
    show (arena.memory.clear _ _).get address = _
    rw [Memory.get_clear, if_neg (by omega)]
  · exact .refl block arena

theorem onlyIn_copy (arena : Arena) (source target : Block) (len : Nat) :
    OnlyIn target arena (arena.copy source target len).2 := by
  unfold copy
  split
  · refine ⟨rfl, rfl, rfl, rfl, fun address outside => ?_⟩
    show (arena.memory.write _ _).get address = _
    rw [Memory.get_write, if_neg]
    simp only [Memory.length_read]
    omega
  · exact .refl target arena

/-- An action that asks for one block and then may change bytes of that block. -/
structure Requests {ε : Type} (size : Nat) (action : Action ε Arena Block) : Prop where
  error : ∀ {arena e}, (action arena).answer = .error e →
    (action arena).state = (allocate size arena).state
  ok : ∀ {arena fresh}, (action arena).answer = .ok fresh →
    (allocate size arena).answer = .ok fresh ∧
      OnlyIn fresh (allocate size arena).state (action arena).state

theorem requests_allocate (size : Nat) : Requests size (allocate size) where
  error _ := rfl
  ok given := ⟨given, .refl ..⟩

/-! ## Reallocation by the answer to its request -/

section Reallocation

variable {arena : Arena} {size : Nat}

/-- A request for no bytes is turned down at once. -/
theorem allocate_zero (arena : Arena) :
    ∃ cause, allocate 0 arena = ⟨.error cause, arena, []⟩ := by
  unfold allocate
  split
  · exact ⟨_, rfl⟩
  · exact ⟨_, rfl⟩

/-- Where there is no block to be had, there is none to move to. A request for no bytes leaves the
arena as a request of the arena itself does. -/
theorem reallocate_of_error {cause : AllocError} (old : Option Block)
    (failed : (allocate size arena).answer = .error cause) :
    reallocate old size arena =
      ⟨.error (), (allocate size arena).state, (allocate size arena).events⟩ := by
  unfold reallocate
  split
  · next none =>
    obtain ⟨cause, idle⟩ := allocate_zero arena
    rw [none, idle]
    rfl
  · have run : allocate? size arena =
        ⟨.error (), (allocate size arena).state, (allocate size arena).events⟩ := by
      simp only [allocate?, failed]
      rfl
    rw [Action.bind_apply_of_error run]

theorem allocate?_of_ok {fresh : Block} (given : (allocate size arena).answer = .ok fresh) :
    size ≠ 0 ∧ allocate? size arena =
      ⟨.ok fresh, (allocate size arena).state, (allocate size arena).events⟩ := by
  refine ⟨fun none => ?_, by simp only [allocate?, given]; rfl⟩
  obtain ⟨cause, idle⟩ := allocate_zero arena
  rw [none, idle] at given
  cases given

/-- With no old block, the fresh one is handed out as it is. -/
theorem reallocate_none_of_ok {fresh : Block} (given : (allocate size arena).answer = .ok fresh) :
    (reallocate none size arena).answer = .ok fresh ∧
      (reallocate none size arena).state = (allocate size arena).state := by
  obtain ⟨some, run⟩ := allocate?_of_ok given
  rw [reallocate, if_neg some, Action.bind_apply_of_ok run]
  exact ⟨rfl, rfl⟩

/-- The fresh block is cleared before the old one is copied into it. -/
theorem reallocate_of_ok {fresh : Block} (old : Block)
    (given : (allocate size arena).answer = .ok fresh)
    (held : (allocate size arena).state.holds fresh = true) :
    let copied := ((allocate size arena).state.clear fresh).copy old fresh size
    reallocate (some old) size arena = ⟨.ok fresh, copied.2,
      (allocate size arena).events ++ [.reallocated old fresh (copied.1.getD 0)]⟩ := by
  obtain ⟨some, run⟩ := allocate?_of_ok given
  rw [reallocate, if_neg some, Action.bind_apply_of_ok run]
  simp only [if_pos held]

theorem reallocate_of_lost {fresh : Block} (old : Block)
    (given : (allocate size arena).answer = .ok fresh)
    (lost : (allocate size arena).state.holds fresh ≠ true) :
    (reallocate (some old) size arena).answer = .error () ∧
      (reallocate (some old) size arena).state = (allocate size arena).state := by
  obtain ⟨some, run⟩ := allocate?_of_ok given
  rw [reallocate, if_neg some, Action.bind_apply_of_ok run]
  simp only [if_neg lost, and_self]

end Reallocation

theorem requests_reallocate (old : Block) (size : Nat) :
    Requests size (reallocate (some old) size) := by
  refine ⟨fun {arena e} failed => ?_, fun {arena fresh} moved => ?_⟩
  · cases given : (allocate size arena).answer with
    | error cause => rw [reallocate_of_error _ given]
    | ok block =>
      by_cases held : (allocate size arena).state.holds block = true
      · rw [reallocate_of_ok old given held] at failed
        cases failed
      · exact (reallocate_of_lost old given held).2
  · cases given : (allocate size arena).answer with
    | error cause =>
      rw [reallocate_of_error _ given] at moved
      cases moved
    | ok block =>
      by_cases held : (allocate size arena).state.holds block = true
      · rw [reallocate_of_ok old given held] at moved ⊢
        cases Except.ok.inj moved
        exact ⟨rfl, (onlyIn_clear ..).trans (onlyIn_copy ..)⟩
      · rw [(reallocate_of_lost old given held).1] at moved
        cases moved

/-! ## Blocks elsewhere -/

theorem holds_congr {before after : Arena} (capacity : after.capacity = before.capacity)
    (epoch : after.epoch = before.epoch) (initialized : after.initialized = before.initialized)
    (block : Block) : after.holds block = before.holds block := by
  simp only [holds, capacity, epoch, initialized]

theorem OnlyIn.holds_eq {block : Block} {before after : Arena} (h : OnlyIn block before after)
    (other : Block) : after.holds other = before.holds other :=
  holds_congr h.capacity h.epoch h.initialized other

theorem OnlyIn.bytes?_eq {block other : Block} {before after : Arena}
    (h : OnlyIn block before after) (apart : other.Disjoint block) :
    after.bytes? other = before.bytes? other := by
  have reserved := other.len_le_reserved
  have reserved' := block.len_le_reserved
  have same : after.memory.read other.offset other.len =
      before.memory.read other.offset other.len := by
    refine Memory.read_congr fun address low high => h.elsewhere address ?_
    rcases apart with apart | apart
    · exact .inl (by omega)
    · exact .inr (by omega)
  unfold bytes?
  rw [h.holds_eq, same]

theorem holds_iff {arena : Arena} {block : Block} :
    arena.holds block = true ↔ arena.initialized = true ∧ block.epoch = arena.epoch ∧
      block.offset + block.len ≤ arena.capacity := by
  simp only [holds, Bool.and_eq_true, beq_iff_eq, decide_eq_true_eq, and_assoc]

end Arena

end HandleHeap
