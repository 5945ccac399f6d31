import HandleHeap.CommandLine.Summary
import HandleHeap.Heap.Elements
import HandleHeap.Heap.Interning
import HandleHeap.Heap.Stats

/-!
# Statistics of a sample heap

Builds a small object graph and summarizes the statistics of its heap: a prototype, a dense array of
sixteen integers, and one more object of the array's shape.
-/

namespace HandleHeap.CommandLine.Sample

/-- Appends the integers from `n` on to an array. -/
def pushFrom (array : Handle) (n : Int32) : (count : Nat) → HeapAction Unit
  | 0 => return
  | count + 1 => do
    let _ ← Heap.pushElement array (.int n)
    pushFrom array (n + 1) count

/-- Builds the object graph. -/
def build : HeapAction Unit := do
  let proto ← Heap.allocObject .null 0
  let shape ← Heap.internShape proto
  let array ← Heap.allocObject shape 1
  pushFrom array 0 16
  let _ ← Heap.allocObject shape 2

/-- The summary of a heap. -/
def summary (stats : HeapStats) : Summary :=
  .object
    [("arena_capacity", .number stats.arenaCapacity), ("arena_used", .number stats.arenaUsed),
      ("arena_available", .number stats.arenaAvailable),
      ("arena_epoch", .number stats.arenaEpoch.toNat),
      ("live_handles", .number stats.liveHandles), ("free_handles", .number stats.freeHandles),
      ("handle_capacity", .number stats.handleCapacity),
      ("hashed_shapes", .number stats.hashedShapes), ("roots", .number stats.roots),
      ("pinned", .number stats.pinned),
      ("records", .object
        [("objects", .number stats.records.objects), ("shapes", .number stats.records.shapes),
          ("property_arrays", .number stats.records.propertyArrays),
          ("element_arrays", .number stats.records.elementArrays)])]

/-- Runs the stats command. -/
def run (grants : Nat → Bool) (config : Config) : Except Stop Summary := do
  let heap ← (Heap.new grants config).answer
  let built := build heap
  let _ ← built.answer
  return summary built.state.stats

end HandleHeap.CommandLine.Sample
