import HandleHeap.CommandLine.Summary
import HandleHeap.Heap.Allocation
import HandleHeap.Heap.PrototypeChain

/-!
# Searching a chain

Builds a prototype chain of objects, each with a shape of its own, and searches it from the
object made last, the leaf, for the one made first, the root. A cyclic chain has the leaf as the
prototype of its root; nothing ends a walk on it, so the search there is for an object that does
not exist.
-/

namespace HandleHeap.CommandLine.Chain

/-- The bytes that an object and its shape take, with room to spare. -/
def bytesPerLink : Nat := 128

/-- The number of objects on a chain. There is always one. -/
def links (depth : Nat) : Nat := max depth 1

/-- The capacity of the arena for a chain. The product has to fit in 64 bits. -/
def capacity (depth : Nat) : Except Stop Nat :=
  let product := links depth * bytesPerLink
  if product < sizeLimit then .ok (max product (64 * 1024)) else .error (.fault .productOverflow)

/-- Makes an object whose prototype is `leaf`. -/
def addLink (leaf : Handle) : HeapAction Handle := do
  let shape ← Heap.allocShape leaf 0
  Heap.allocObject shape 0

/-- Adds objects to a chain, and gives its root and its leaf. -/
def build : (count : Nat) → (root leaf : Handle) → Heap → Except Stop (Handle × Handle × Heap)
  | 0, root, leaf, heap => .ok (root, leaf, heap)
  | count + 1, root, leaf, heap =>
    match addLink leaf heap with
    | ⟨.ok object, heap, _⟩ => build count (if root.isNull then object else root) object heap
    | ⟨.error stop, _, _⟩ => .error stop

/-- Makes `leaf` the prototype of `root`. -/
def close (root leaf : Handle) : HeapAction Unit := do
  let shape ← Action.look (·.get root ObjectField.shape)
  Heap.set shape ShapeField.proto leaf

/-- Builds a chain and searches it. -/
def searched (grants : Nat → Bool) (depth : Nat) (cycle : Bool) : Except Stop ChainSearch := do
  let capacity ← capacity depth
  let heap ← (Heap.new grants { arenaCapacity := capacity }).answer
  let (root, leaf, heap) ← build (links depth) .null .null heap
  let search : HeapAction (Unit × ChainSearch) := do
    if cycle then
      close root leaf
      Heap.search leaf () fun _ _ _ => pure ((), false)
    else Heap.search leaf () fun _ _ object => pure ((), object = root)
  let (_, ended) ← (search heap).answer
  return ended

/-- How a search ended, for the summary. -/
def outcome : ChainSearch → List (String × Summary)
  | .found _ hops => [("outcome", .word "found"), ("hops", .number hops)]
  | .notFound _ visited => [("outcome", .word "not_found"), ("visited", .number visited)]
  | .depthExceeded _ visited => [("outcome", .word "depth_exceeded"), ("visited", .number visited)]

/-- Runs the chain command. -/
def run (grants : Nat → Bool) (depth : Nat) (cycle : Bool) : Except Stop Summary := do
  let ended ← searched grants depth cycle
  return .object ([("depth", .number depth), ("cycle", .flag cycle)] ++ outcome ended)

end HandleHeap.CommandLine.Chain
