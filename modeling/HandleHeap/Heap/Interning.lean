import HandleHeap.Heap.Allocation

/-!
# Shape interning

Objects with one prototype and no properties share a shape. The shared shapes are found through
buckets: the top bits of a shape's hash select a bucket, and the shapes of a bucket are linked
through their own records, the one put in last in front.

The links are ordinary fields that anyone may overwrite. A walk along them therefore takes at
most one step more than there are live records; a longer walk has met some record twice, and is
refused as corrupt.
-/

namespace HandleHeap.Heap

/-- The number of property slots of an interned shape. -/
def initialPropSize : UInt32 := 2

/-- The most steps along a bucket chain that meets no record twice. -/
def chainLimit (heap : Heap) : Nat := heap.handles.live + 1

/-- The bucket that a hash selects. -/
def bucketOf (heap : Heap) (hash : UInt32) : Nat := heap.buckets.bucket hash

/-- Whether a shape is the property-less one for a prototype. Later fields are read only if the
earlier ones fit. -/
def shapeMatches (heap : Heap) (shape proto : Handle) : Report Stop Bool := do
  if (← heap.get shape ShapeField.hash) ≠ proto.shapeHash then return false
  if (← heap.get shape ShapeField.proto) ≠ proto then return false
  return (← heap.get shape ShapeField.propCount) = 0

/-- Searches a bucket chain from `current` on, at most `remaining` shapes. -/
def findFrom (heap : Heap) (proto : Handle) (remaining : Nat) (current : Handle) :
    Report Stop (Option Handle) :=
  if current.isNull then return none
  else match remaining with
    | 0 => Report.refuse .shapeChainCorrupt
    | remaining + 1 => do
      if ← heap.shapeMatches current proto then return some current
      let next ← heap.get current ShapeField.hashNext
      heap.findFrom proto remaining next

/-- The interned shape for a prototype, if there is one. -/
def findShape (heap : Heap) (proto : Handle) : Report Stop (Option Handle) :=
  heap.findFrom proto heap.chainLimit (heap.buckets.head (heap.bucketOf proto.shapeHash))

/-- Puts a shape in front of its bucket. A shape that is in a bucket stays where it is. -/
def hashShape (shape : Handle) : HeapAction Unit := do
  if ← Action.look (·.tryGet shape ShapeField.isHashed) then return
  let hash ← Action.look (·.tryGet shape ShapeField.hash)
  let first ← Action.look fun heap => pure (heap.buckets.head (heap.bucketOf hash))
  set shape ShapeField.hashNext first
  set shape ShapeField.isHashed true
  onBuckets fun buckets =>
    let buckets := buckets.setHead (buckets.bucket hash) shape
    { buckets with hashed := buckets.hashed + 1 }

/-- The shape before `shape` on its chain, null if it is the first. `previous` is the one before
`current`. -/
def predecessor (heap : Heap) (shape : Handle) (remaining : Nat) (previous current : Handle) :
    Report Stop Handle :=
  if current = shape then return previous
  else if current.isNull then Report.refuse .shapeChainCorrupt
  else match remaining with
    | 0 => Report.refuse .shapeChainCorrupt
    | remaining + 1 => do
      let next ← heap.get current ShapeField.hashNext
      heap.predecessor shape remaining current next

/-- Takes one shape off the count of those in buckets. -/
def countUnhashed : HeapAction Unit := fun heap =>
  if heap.buckets.hashed = 0 then ⟨.error (.fault .hashedCountUnderflow), heap, []⟩
  else
    ⟨.ok (),
      { heap with buckets := { heap.buckets with hashed := heap.buckets.hashed - 1 } }, []⟩

/-- Takes a shape out of its bucket. Answers whether it was in one. -/
def unhashShape (shape : Handle) : HeapAction Bool := do
  if ← Action.look (·.tryGet shape ShapeField.isHashed) then
    let hash ← Action.look (·.tryGet shape ShapeField.hash)
    let next ← Action.look (·.tryGet shape ShapeField.hashNext)
    let previous ← Action.look fun heap =>
      heap.predecessor shape heap.chainLimit .null (heap.buckets.head (heap.bucketOf hash))
    if previous.isNull then
      onBuckets fun buckets => buckets.setHead (buckets.bucket hash) next
    else set previous ShapeField.hashNext next
    set shape ShapeField.hashNext .null
    set shape ShapeField.isHashed false
    countUnhashed
    return true
  else return false

/-- The shared shape for a prototype, made on first use. -/
def internShape (proto : Handle) : HeapAction Handle := do
  match ← Action.look (·.findShape proto) with
  | some shape =>
    Action.emit (.interned true proto shape)
    return shape
  | none =>
    let shape ← allocShape proto initialPropSize
    hashShape shape
    Action.emit (.interned false proto shape)
    return shape

end HandleHeap.Heap
