/-!
# Zero-extended byte memory

The bytes behind an arena. A memory is a byte for every address: the addresses beyond the last
one ever written read as zero, so a large arena costs only what its records touch.

The view of a memory is `Memory.get`. Each operation has one lemma about it:
* `Memory.get_write`: a write changes the bytes it names and no other.
* `Memory.get_clear`: clearing zeroes the bytes it names and changes no other.
* `Memory.getElem?_read`: a read lists the bytes at consecutive addresses.
-/

namespace HandleHeap

/-- A byte for every address. Addresses at or beyond `written.size` hold zero. -/
structure Memory where
  /-- The bytes from address 0 up to the last one ever written. -/
  written : ByteArray

namespace Memory

def empty : Memory := ⟨ByteArray.empty⟩

instance : Inhabited Memory := ⟨empty⟩

def get (memory : Memory) (address : Nat) : UInt8 :=
  if h : address < memory.written.size then memory.written[address] else 0

/-- The `len` bytes from address `start` on. -/
def read (memory : Memory) (start len : Nat) : List UInt8 :=
  (List.range' start len).map memory.get

def appendZeros (bytes : ByteArray) : (count : Nat) → ByteArray
  | 0 => bytes
  | count + 1 => appendZeros (bytes.push 0) count

/-- Overwrites consecutive bytes from `address` on. Bytes past the end are dropped. -/
def overwrite (bytes : ByteArray) (address : Nat) : List UInt8 → ByteArray
  | [] => bytes
  | byte :: rest =>
    overwrite (if h : address < bytes.size then bytes.set address byte h else bytes)
      (address + 1) rest

/-- Overwrites `count` bytes from `address` on with zeros. -/
def overwriteZeros (bytes : ByteArray) (address : Nat) : (count : Nat) → ByteArray
  | 0 => bytes
  | count + 1 =>
    overwriteZeros (if h : address < bytes.size then bytes.set address 0 h else bytes)
      (address + 1) count

/-- Stores consecutive bytes from address `start` on. -/
def write (memory : Memory) (start : Nat) (bytes : List UInt8) : Memory :=
  let missing := start + bytes.length - memory.written.size
  ⟨overwrite (appendZeros memory.written missing) start bytes⟩

/-- Stores `len` zeros from address `start` on. Only bytes ever written need the work. -/
def clear (memory : Memory) (start len : Nat) : Memory :=
  let touched := min len (memory.written.size - start)
  ⟨overwriteZeros memory.written start touched⟩

/-! ## Laws of the view -/

/-- The byte at an address, with the end of the written part made explicit. -/
theorem get_eq_getD (memory : Memory) (address : Nat) :
    memory.get address = memory.written.data[address]?.getD 0 := by
  unfold get
  split
  next h => rw [Array.getElem?_eq_getElem h]; rfl
  next h => rw [Array.getElem?_eq_none (Nat.le_of_not_lt h)]; rfl

@[simp]
theorem get_empty (address : Nat) : empty.get address = 0 := rfl

@[simp]
theorem length_read (memory : Memory) (start len : Nat) :
    (memory.read start len).length = len := by
  simp [read]

theorem getElem?_read (memory : Memory) (start len i : Nat) :
    (memory.read start len)[i]? = if i < len then some (memory.get (start + i)) else none := by
  simp only [read, List.getElem?_map]
  split
  next h => simp [List.getElem?_range' h]
  next h => rw [List.getElem?_eq_none (by simpa using h)]; rfl

/-- A part of a read is the read of a part. -/
theorem drop_take_read (memory : Memory) (start len skip count : Nat)
    (h : skip + count ≤ len) :
    ((memory.read start len).drop skip).take count = memory.read (start + skip) count := by
  apply List.ext_getElem?
  intro i
  rw [List.getElem?_take, List.getElem?_drop, getElem?_read, getElem?_read]
  by_cases hi : i < count
  · rw [if_pos hi, if_pos (by omega), if_pos hi, Nat.add_assoc]
  · rw [if_neg hi, if_neg hi]

theorem data_appendZeros (bytes : ByteArray) (count : Nat) :
    (appendZeros bytes count).data = bytes.data ++ Array.replicate count 0 := by
  induction count generalizing bytes with
  | zero => simp [appendZeros]
  | succ count ih =>
    have h : (bytes.push 0).data = bytes.data.push 0 := rfl
    rw [appendZeros, ih, h, Array.replicate_succ']
    simp [← Array.append_assoc]

theorem data_overwrite_cons (bytes : ByteArray) (address : Nat) (byte : UInt8)
    (rest : List UInt8) :
    overwrite bytes address (byte :: rest) =
      overwrite ⟨bytes.data.setIfInBounds address byte⟩ (address + 1) rest := by
  rw [overwrite]
  congr 1
  split
  next h =>
    have h : address < bytes.data.size := h
    rw [Array.setIfInBounds, dif_pos h]
    rfl
  next h =>
    have h : ¬ address < bytes.data.size := h
    rw [Array.setIfInBounds, dif_neg h]

theorem getElem?_overwrite (bytes : ByteArray) (address : Nat) (source : List UInt8) (i : Nat) :
    (overwrite bytes address source).data[i]? =
      if address ≤ i ∧ i < address + source.length ∧ i < bytes.data.size then
        source[i - address]?
      else bytes.data[i]? := by
  induction source generalizing bytes address with
  | nil =>
    rw [overwrite, if_neg]
    simp only [List.length_nil]
    omega
  | cons byte rest ih =>
    rw [data_overwrite_cons, ih]
    simp only [Array.size_setIfInBounds, List.length_cons]
    rcases Nat.lt_trichotomy i address with h | h | h
    · rw [if_neg (by omega), if_neg (by omega), Array.getElem?_setIfInBounds_ne (by omega)]
    · subst h
      rw [if_neg (by omega)]
      by_cases hs : i < bytes.data.size
      · rw [if_pos (by omega), Array.getElem?_setIfInBounds_self_of_lt hs]
        simp
      · rw [if_neg (by omega), Array.getElem?_eq_none (by simpa using hs),
          Array.getElem?_eq_none (Nat.le_of_not_lt hs)]
    · rw [Array.getElem?_setIfInBounds_ne (by omega)]
      congr 1
      · simp only [eq_iff_iff]; omega
      · obtain ⟨k, rfl⟩ : ∃ k, i = address + 1 + k := ⟨i - (address + 1), by omega⟩
        rw [show address + 1 + k - (address + 1) = k by omega,
          show address + 1 + k - address = k + 1 by omega, List.getElem?_cons_succ]

/-- A write changes the bytes it names and no other. -/
theorem get_write (memory : Memory) (start : Nat) (bytes : List UInt8) (address : Nat) :
    (memory.write start bytes).get address =
      if start ≤ address ∧ address < start + bytes.length then bytes[address - start]?.getD 0
      else memory.get address := by
  simp only [get_eq_getD, write, getElem?_overwrite, data_appendZeros, Array.size_append,
    Array.size_replicate]
  have hs : memory.written.size = memory.written.data.size := rfl
  by_cases h : start ≤ address ∧ address < start + bytes.length
  · rw [if_pos (by omega), if_pos h]
  · rw [if_neg (by omega), if_neg h]
    by_cases hw : address < memory.written.data.size
    · rw [Array.getElem?_append_left hw]
    · rw [Array.getElem?_append_right (by omega), Array.getElem?_replicate,
        Array.getElem?_eq_none (Nat.le_of_not_lt hw)]
      split <;> rfl

theorem overwriteZeros_eq (bytes : ByteArray) (address count : Nat) :
    overwriteZeros bytes address count = overwrite bytes address (List.replicate count 0) := by
  induction count generalizing bytes address with
  | zero => rfl
  | succ count ih => rw [overwriteZeros, ih, List.replicate_succ, overwrite]

/-- Clearing zeroes the bytes it names and changes no other. -/
theorem get_clear (memory : Memory) (start len address : Nat) :
    (memory.clear start len).get address =
      if start ≤ address ∧ address < start + len then 0 else memory.get address := by
  simp only [get_eq_getD, clear, overwriteZeros_eq, getElem?_overwrite, List.length_replicate,
    List.getElem?_replicate]
  have hs : memory.written.size = memory.written.data.size := rfl
  by_cases h : start ≤ address ∧ address < start + len
  · rw [if_pos h]
    by_cases hw : address < memory.written.data.size
    · rw [if_pos (by omega)]
      split <;> rfl
    · rw [if_neg (by omega), Array.getElem?_eq_none (by omega)]
      rfl
  · rw [if_neg (by omega), if_neg h]

end Memory

end HandleHeap
