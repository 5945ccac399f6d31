/-!
# Little-endian integers

Every integer in a record is a fixed number of bytes, least significant byte first.

* `encode_decode`: a byte list is the encoding of its own value, so no two byte lists of one
  length have the same value.
* `decode_encode`: writing and reading back keeps a number modulo `range width`.
-/

namespace HandleHeap.LittleEndian

/-- The `width` low bytes of `n`, least significant first. -/
def encode : (width : Nat) → (n : Nat) → List UInt8
  | 0, _ => []
  | width + 1, n => UInt8.ofNat n :: encode width (n / 256)

/-- How many numbers `width` bytes can tell apart. -/
def range : (width : Nat) → Nat
  | 0 => 1
  | width + 1 => 256 * range width

/-- The number that the bytes spell, least significant first. -/
def decode : List UInt8 → Nat
  | [] => 0
  | byte :: bytes => byte.toNat + 256 * decode bytes

@[simp]
theorem length_encode (width n : Nat) : (encode width n).length = width := by
  induction width generalizing n with
  | zero => rfl
  | succ width ih => simp [encode, ih]

theorem decode_lt (bytes : List UInt8) : decode bytes < range bytes.length := by
  induction bytes with
  | nil => simp [decode, range]
  | cons byte bytes ih =>
    have hb := byte.toNat_lt
    simp only [decode, List.length_cons, range]
    omega

theorem decode_encode (width n : Nat) : decode (encode width n) = n % range width := by
  induction width generalizing n with
  | zero => simp [encode, decode, range, Nat.mod_one]
  | succ width ih =>
    simp only [encode, decode, ih, UInt8.toNat_ofNat', Nat.reducePow]
    rw [range, Nat.mod_mul]

theorem encode_decode (bytes : List UInt8) : encode bytes.length (decode bytes) = bytes := by
  induction bytes with
  | nil => rfl
  | cons byte bytes ih =>
    have hb := byte.toNat_lt
    have hd : (byte.toNat + 256 * decode bytes) / 256 = decode bytes := by omega
    simp only [List.length_cons, decode, encode, hd, ih, List.cons.injEq, and_true]
    rw [← UInt8.toNat_inj, UInt8.toNat_ofNat']
    omega

end HandleHeap.LittleEndian
