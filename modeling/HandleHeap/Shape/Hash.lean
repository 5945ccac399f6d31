import HandleHeap.Handle

/-!
# Shape hashes

The hash under which a shape is interned, computed from its prototype.
-/

namespace HandleHeap

/-- Mixes a number into a hash, modulo 2 ^ 32. -/
def mixHash (hash value : UInt32) : UInt32 := (hash + value) * 0x9e370001

/-- The hash of a shape with a prototype and no properties. -/
def Handle.shapeHash (proto : Handle) : UInt32 :=
  mixHash (mixHash 1 proto.index) proto.generation

end HandleHeap
