/-!
# Handles

A handle names a record without saying where the record is. It is an index into the handle table
together with the generation that the index had when the handle was issued. Freeing a record
advances the generation of its index, so a handle kept past that no longer fits its index.

Index 0 is never issued. Every handle with index 0 is *null-like*, whatever its generation;
`Handle.null` is the one whose generation is 0 too.
-/

namespace HandleHeap

/-- A name for a record: a table index and the generation of that index at issue time. -/
structure Handle where
  index : UInt32
  generation : UInt32
  deriving DecidableEq, Repr, Inhabited

namespace Handle

/-- The handle that names no record. Its raw form is 0. -/
def null : Handle := ⟨0, 0⟩

/-- A handle that can never resolve, because its index is never issued. -/
def isNull (handle : Handle) : Bool := handle.index == 0

/-- The 64-bit form: the generation in the high half, the index in the low half. -/
def raw (handle : Handle) : Nat :=
  handle.generation.toNat * 0x100000000 + handle.index.toNat

/-- The handle with a given 64-bit form. Higher bits are ignored. -/
def ofRaw (raw : Nat) : Handle := ⟨UInt32.ofNat raw, UInt32.ofNat (raw / 0x100000000)⟩

/-- How a handle appears in events. All null-like handles look alike. -/
def describe (handle : Handle) : String :=
  if handle.isNull then "NULL_HANDLE"
  else
    "Handle \x7b index: " ++ toString handle.index.toNat ++ ", generation: " ++
      toString handle.generation.toNat ++ " \x7d"

theorem raw_lt (handle : Handle) : handle.raw < 0x10000000000000000 := by
  have hi := handle.index.toNat_lt
  have hg := handle.generation.toNat_lt
  unfold raw
  omega

@[simp]
theorem ofRaw_raw (handle : Handle) : ofRaw handle.raw = handle := by
  have hi := handle.index.toNat_lt
  have hg := handle.generation.toNat_lt
  have h : handle.raw / 0x100000000 = handle.generation.toNat := by unfold raw; omega
  cases handle with
  | mk index generation =>
    simp only [ofRaw, h, UInt32.ofNat_toNat, Handle.mk.injEq, and_true]
    rw [← UInt32.toNat_inj, UInt32.toNat_ofNat']
    simp only [raw] at hi ⊢
    omega

theorem raw_ofRaw {raw : Nat} (h : raw < 0x10000000000000000) : (ofRaw raw).raw = raw := by
  simp only [ofRaw, Handle.raw, UInt32.toNat_ofNat']
  omega

end Handle

end HandleHeap
