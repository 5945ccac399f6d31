import HandleHeap.Handle

/-!
# Shape buckets

The heads of the bucket chains and the number of shapes in them. The top bits of a shape's hash
select its bucket. The links of a chain are in the shape records, not here.
-/

namespace HandleHeap

/-- The heads of the bucket chains. -/
structure ShapeBuckets where
  /-- How many top bits of a hash select the bucket, 1 to 16. -/
  bits : Nat
  /-- The first shape of each bucket that has one. -/
  heads : List (Nat × Handle)
  /-- How many shapes were put in and not taken out. -/
  hashed : Nat
  deriving Repr, Inhabited

namespace ShapeBuckets

/-- No shape in any bucket. The number of bits is brought into its range. -/
def new (bits : UInt8) : ShapeBuckets := ⟨max 1 (min 16 bits.toNat), [], 0⟩

/-- The bucket of a hash. -/
def bucket (buckets : ShapeBuckets) (hash : UInt32) : Nat :=
  hash.toNat >>> (32 - buckets.bits)

/-- The first shape of a bucket, null if it is empty. -/
def head (buckets : ShapeBuckets) (bucket : Nat) : Handle :=
  (buckets.heads.lookup bucket).getD .null

/-- Makes a shape the first of a bucket. A null-like one empties the bucket. -/
def setHead (buckets : ShapeBuckets) (bucket : Nat) (shape : Handle) : ShapeBuckets :=
  let others := buckets.heads.filter fun entry => entry.1 != bucket
  { buckets with heads := if shape.isNull then others else (bucket, shape) :: others }

/-- Empties all buckets. -/
def clear (buckets : ShapeBuckets) : ShapeBuckets := { buckets with heads := [], hashed := 0 }

end ShapeBuckets

end HandleHeap
