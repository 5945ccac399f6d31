import HandleHeap.Arena.Basic

/-!
# Reallocation

The allocation interface that says only whether there is a block, not why there is none. Moving a
block to a new length takes a fresh block, so the old one stays readable until the next reset.
-/

namespace HandleHeap.Arena

/-- Hands out a block, or nothing. -/
def allocate? (size : Nat) : Action Unit Arena Block := fun arena =>
  let out := allocate size arena
  ⟨out.answer.mapError fun _ => (), out.state, out.events⟩

/-- Hands out a block of `size` bytes that starts with the contents of `old` and is zero beyond
them. An `old` of an earlier epoch counts as empty; with no `old` at all the block keeps the
bytes it finds. -/
def reallocate (old : Option Block) (size : Nat) : Action Unit Arena Block := do
  if size = 0 then Action.fail () else
  let fresh ← allocate? size
  match old with
  | none => return fresh
  | some old => fun arena =>
    if arena.holds fresh then
      let (copied, arena) := (arena.clear fresh).copy old fresh size
      ⟨.ok fresh, arena, [.reallocated old fresh (copied.getD 0)]⟩
    else ⟨.error (), arena, []⟩

/-- Releasing a block alone does nothing: an arena frees only as a whole. -/
def free (_block : Block) (arena : Arena) : Arena := arena

/-- The bytes of a block usable beyond its length: none. -/
def usableSize (_block : Block) (_arena : Arena) : Nat := 0

end HandleHeap.Arena
