import HandleHeap.Memory
import HandleHeap.Record.Layout
import HandleHeap.Slot
import Mathlib.Algebra.Order.Ring.Nat

/-!
# Windows of a record

A field, a slot and an element are each a window of their record's bytes. Here a record is only its
list of bytes, wherever it is stored.

* `window`, `splice`: reading a window, and replacing one. What does not fit is left out.
* `window_splice_same`, `window_splice_apart`: what is read after that.
* `Field.read_write`, `Field.read_write_apart`: the same for fields.
* `Value.decode_encode`, `Slot.decode_encode`: a stored value and a stored slot read back.
* `Codec`: what is in a cell, and how it is stored.
-/

namespace HandleHeap

/-! ## 1. Windows -/

/-- The `len` bytes from position `start` on. -/
def window (bytes : List UInt8) (start len : Nat) : List UInt8 := (bytes.drop start).take len

/-- The bytes with others in place of those from position `start` on. -/
def splice (bytes : List UInt8) (start : Nat) (source : List UInt8) : List UInt8 :=
  bytes.take start ++ source.take (bytes.length - start) ++ bytes.drop (start + source.length)

@[simp]
theorem length_splice (bytes : List UInt8) (start : Nat) (source : List UInt8) :
    (splice bytes start source).length = bytes.length := by
  simp only [splice, List.length_append, List.length_take, List.length_drop]
  omega

theorem getElem?_splice (bytes : List UInt8) (start : Nat) (source : List UInt8) (i : Nat) :
    (splice bytes start source)[i]? =
      if start ≤ i ∧ i < start + source.length ∧ i < bytes.length then source[i - start]?
      else bytes[i]? := by
  rw [splice, List.append_assoc, List.getElem?_append]
  by_cases before : i < (bytes.take start).length
  · rw [if_pos before]
    rw [List.length_take] at before
    rw [if_neg (by omega), List.getElem?_take_of_lt (by omega)]
  · rw [if_neg before, List.getElem?_append]
    simp only [List.length_take] at before ⊢
    by_cases inside : i < bytes.length
    · by_cases here : i < start + source.length
      · rw [if_pos (by omega), if_pos (by omega), List.getElem?_take_of_lt (by omega)]
        congr 1
        omega
      · rw [if_neg (by omega), if_neg (by omega), List.getElem?_drop]
        congr 1
        omega
    · rw [if_neg (by omega), if_neg (by omega), List.getElem?_drop, List.getElem?_eq_none (by omega),
        List.getElem?_eq_none (by omega)]

theorem getElem?_window (bytes : List UInt8) (start len i : Nat) :
    (window bytes start len)[i]? = if i < len then bytes[start + i]? else none := by
  rw [window, List.getElem?_take, List.getElem?_drop]

/-- The bytes that were put in are read back, if they fit. -/
theorem window_splice_same {bytes source : List UInt8} {start : Nat}
    (fits : start + source.length ≤ bytes.length) :
    window (splice bytes start source) start source.length = source := by
  apply List.ext_getElem?
  intro i
  rw [getElem?_window, getElem?_splice]
  by_cases inside : i < source.length
  · rw [if_pos inside, if_pos (by omega), Nat.add_sub_cancel_left]
  · rw [if_neg inside, List.getElem?_eq_none (by omega)]

/-- Replacing all of the bytes. -/
theorem splice_whole {bytes source : List UInt8} (same : source.length = bytes.length) :
    splice bytes 0 source = source := by
  simp [splice, ← same]

/-- Windows apart from the bytes that were put in read as before. -/
theorem window_splice_apart {bytes source : List UInt8} {start other len : Nat}
    (apart : other + len ≤ start ∨ start + source.length ≤ other) :
    window (splice bytes start source) other len = window bytes other len := by
  apply List.ext_getElem?
  intro i
  rw [getElem?_window, getElem?_window, getElem?_splice]
  by_cases inside : i < len
  · rw [if_pos inside, if_pos inside, if_neg (by omega)]
  · rw [if_neg inside, if_neg inside]

theorem window_zeros {n start len : Nat} (fits : start + len ≤ n) :
    window (List.replicate n 0) start len = List.replicate len 0 := by
  rw [window, List.drop_replicate, List.take_replicate, Nat.min_eq_left (by omega)]

/-- The bytes cut to `size`, or followed by zeros up to `size`. -/
def fitted (bytes : List UInt8) (size : Nat) : List UInt8 :=
  bytes.take size ++ List.replicate (size - bytes.length) 0

@[simp]
theorem length_fitted (bytes : List UInt8) (size : Nat) : (fitted bytes size).length = size := by
  simp only [fitted, List.length_append, List.length_take, List.length_replicate]
  omega

/-- Bytes that are as many as they should be stay. -/
theorem fitted_same (bytes : List UInt8) : fitted bytes bytes.length = bytes := by
  rw [fitted, List.take_length, Nat.sub_self, List.replicate_zero, List.append_nil]

theorem getElem?_fitted (bytes : List UInt8) (size i : Nat) :
    (fitted bytes size)[i]? =
      if i < size then if i < bytes.length then bytes[i]? else some 0 else none := by
  rw [fitted, List.getElem?_append, List.length_take, List.getElem?_replicate]
  by_cases inside : i < size
  · by_cases known : i < bytes.length
    · rw [if_pos (by omega), if_pos inside, if_pos known, List.getElem?_take_of_lt inside]
    · rw [if_neg (by omega), if_pos (by omega), if_pos inside, if_neg known]
  · rw [if_neg inside]
    split
    · omega
    · rw [if_neg (by omega)]

/-- Windows that both lengths reach are kept. -/
theorem window_fitted {bytes : List UInt8} {size start len : Nat} (fits : start + len ≤ size)
    (known : start + len ≤ bytes.length) :
    window (fitted bytes size) start len = window bytes start len := by
  apply List.ext_getElem?
  intro i
  rw [getElem?_window, getElem?_window, getElem?_fitted]
  by_cases inside : i < len
  · rw [if_pos inside, if_pos inside, if_pos (by omega), if_pos (by omega)]
  · rw [if_neg inside, if_neg inside]

/-- Windows beyond the old length are zero. -/
theorem window_fitted_beyond {bytes : List UInt8} {size start len : Nat}
    (fits : start + len ≤ size) (beyond : bytes.length ≤ start) :
    window (fitted bytes size) start len = List.replicate len 0 := by
  apply List.ext_getElem?
  intro i
  rw [getElem?_window, getElem?_fitted, List.getElem?_replicate]
  by_cases inside : i < len
  · rw [if_pos inside, if_pos inside, if_pos (by omega), if_neg (by omega)]
  · rw [if_neg inside, if_neg inside]

namespace Memory

/-- A window of a read is the read of a window. -/
theorem window_read (memory : Memory) {start len skip count : Nat} (fits : skip + count ≤ len) :
    window (memory.read start len) skip count = memory.read (start + skip) count :=
  drop_take_read memory start len skip count fits

theorem take_read (memory : Memory) (start len count : Nat) :
    (memory.read start len).take count = memory.read start (min count len) := by
  apply List.ext_getElem?
  intro i
  rw [List.getElem?_take, getElem?_read, getElem?_read]
  by_cases inside : i < count
  · rw [if_pos inside]
    by_cases known : i < len
    · rw [if_pos known, if_pos (by omega)]
    · rw [if_neg known, if_neg (by omega)]
  · rw [if_neg inside, if_neg (by omega)]

/-- Writing inside a run of bytes replaces a window of it. -/
theorem read_write (memory : Memory) (start len skip : Nat) (source : List UInt8) :
    (memory.write (start + skip) (source.take (len - skip))).read start len =
      splice (memory.read start len) skip source := by
  apply List.ext_getElem?
  intro i
  rw [getElem?_read, getElem?_splice, getElem?_read, length_read, get_write, List.length_take]
  by_cases inside : i < len
  · rw [if_pos inside, if_pos inside]
    by_cases here : skip ≤ i ∧ i < skip + source.length
    · obtain ⟨low, high⟩ := here
      have position : start + i - (start + skip) = i - skip := by omega
      have known : i - skip < source.length := by omega
      rw [if_pos (by omega), if_pos (by omega), position, List.getElem?_take_of_lt (by omega),
        List.getElem?_eq_getElem known, Option.getD_some]
    · rw [if_neg (by omega), if_neg (by omega)]
  · rw [if_neg inside, if_neg inside, if_neg (by omega)]

/-- Writing the first bytes of another run into zeros gives that run, cut or followed by zeros. -/
theorem read_write_zeros {memory : Memory} {start len : Nat} {bytes : List UInt8}
    (zeros : memory.read start len = List.replicate len 0) :
    (memory.write start (bytes.take len)).read start len = fitted bytes len := by
  have written := read_write memory start len 0 bytes
  rw [Nat.add_zero, Nat.sub_zero, zeros] at written
  rw [written]
  apply List.ext_getElem?
  intro i
  rw [getElem?_splice, getElem?_fitted, List.length_replicate, List.getElem?_replicate]
  by_cases inside : i < len
  · by_cases known : i < bytes.length
    · rw [if_pos (by omega), if_pos inside, if_pos known, Nat.sub_zero]
    · rw [if_neg (by omega), if_pos inside, if_pos inside, if_neg known]
  · rw [if_neg (by omega), if_neg inside, if_neg inside]

theorem read_clear (memory : Memory) (start len : Nat) :
    (memory.clear start len).read start len = List.replicate len 0 := by
  apply List.ext_getElem?
  intro i
  rw [getElem?_read, get_clear, List.getElem?_replicate]
  by_cases inside : i < len
  · rw [if_pos inside, if_pos inside, if_pos (by omega)]
  · rw [if_neg inside, if_neg inside]

end Memory

/-! ## 2. Fields -/

namespace LittleEndian

theorem decode_zeros (n : Nat) : decode (List.replicate n 0) = 0 := by
  induction n with
  | zero => rfl
  | succ n ih => rw [List.replicate_succ, decode, ih]; rfl

theorem range_eight : range 8 = 0x10000000000000000 := rfl

end LittleEndian

namespace Scalar

theorem decode_zeros (scalar : Scalar) (n : Nat) :
    scalar.decode (List.replicate n 0) = scalar.sentinel := by
  rw [decode, LittleEndian.decode_zeros]
  cases scalar <;> rfl

end Scalar

namespace Field

variable {layout : Layout} {scalar other : Scalar}

/-- What a field of a record holds. -/
def read (field : Field layout scalar) (bytes : List UInt8) : scalar.Carrier Handle :=
  scalar.decode (window bytes field.offset scalar.width)

/-- The record with another value in a field. -/
def write (field : Field layout scalar) (value : scalar.Carrier Handle) (bytes : List UInt8) :
    List UInt8 :=
  splice bytes field.offset (scalar.encode value)

/-- Two fields have no byte in common. -/
def Apart (a : Field layout scalar) (b : Field layout other) : Prop :=
  a.offset + scalar.width ≤ b.offset ∨ b.offset + other.width ≤ a.offset

instance (a : Field layout scalar) (b : Field layout other) : Decidable (a.Apart b) :=
  inferInstanceAs (Decidable (_ ∨ _))

@[simp]
theorem length_write (field : Field layout scalar) (value : scalar.Carrier Handle)
    (bytes : List UInt8) : (field.write value bytes).length = bytes.length :=
  length_splice ..

/-- A value does not pass the end of the record. -/
theorem take_encode (field : Field layout scalar) (value : scalar.Carrier Handle) :
    (scalar.encode value).take (layout.size - field.offset) = scalar.encode value := by
  refine List.take_of_length_le ?_
  rw [scalar.length_encode]
  exact Nat.le_sub_of_add_le' field.fits

/-- The bytes before a field and those behind it stay. -/
theorem write_eq (field : Field layout scalar) (value : scalar.Carrier Handle)
    {record : List UInt8} (whole : record.length = layout.size) :
    field.write value record = record.take field.offset ++ scalar.encode value ++
      record.drop (field.offset + scalar.width) := by
  rw [write, splice, whole, field.take_encode, scalar.length_encode]

theorem read_write (field : Field layout scalar) (value : scalar.Carrier Handle)
    {bytes : List UInt8} (whole : bytes.length = layout.size) :
    field.read (field.write value bytes) = value := by
  have fits := field.fits
  have width := scalar.length_encode value
  have same : window (field.write value bytes) field.offset (scalar.encode value).length =
      scalar.encode value := window_splice_same (by omega)
  rw [width] at same
  rw [read, same, Scalar.decode_encode]

theorem read_write_apart (field : Field layout scalar) (value : scalar.Carrier Handle)
    {read : Field layout other} (apart : read.Apart field) (bytes : List UInt8) :
    read.read (field.write value bytes) = read.read bytes := by
  have width := scalar.length_encode value
  have same : window (field.write value bytes) read.offset other.width =
      window bytes read.offset other.width := by
    refine window_splice_apart ?_
    rw [width]
    exact apart
  rw [Field.read, same, Field.read]

theorem read_zeros (field : Field layout scalar) :
    field.read (List.replicate layout.size 0) = scalar.sentinel := by
  rw [read, window_zeros field.fits, Scalar.decode_zeros]

end Field

/-! ## 3. Values and slots -/

/-- Skipping a tag byte and its seven zeros. -/
theorem drop_tagged (tag : UInt8) (rest : List UInt8) :
    (tag :: List.replicate 7 0 ++ rest).drop 8 = rest := rfl

theorem Handle.ofRaw_decode (handle : Handle) :
    Handle.ofRaw (LittleEndian.decode (LittleEndian.encode 8 handle.raw)) = handle := by
  rw [LittleEndian.decode_encode, LittleEndian.range_eight, Nat.mod_eq_of_lt handle.raw_lt,
    Handle.ofRaw_raw]

namespace Value

theorem payload_lt (value : Value Handle) : value.payload < 0x10000000000000000 := by
  cases value with
  | undefined | null => exact Nat.zero_lt_succ _
  | bool b => exact Nat.lt_of_le_of_lt (Bool.toNat_le b) (by decide)
  | int n => exact Nat.lt_trans n.toUInt32.toNat_lt (by decide)
  | float bits => exact bits.toNat_lt
  | object target => exact target.raw_lt

theorem ofPayload_payload (value : Value Handle) : ofPayload value.tag value.payload = value := by
  cases value with
  | undefined | null => rfl
  | bool b => cases b <;> rfl
  | int n => exact congrArg int (by simp [payload])
  | float bits => exact congrArg float (by simp [payload])
  | object target => exact congrArg object (Handle.ofRaw_raw target)

theorem decode_encode (value : Value Handle) : decode value.encode = value := by
  have payload : LittleEndian.decode ((value.encode.drop 8).take 8) = value.payload := by
    rw [encode, drop_tagged, List.take_of_length_le (by simp), LittleEndian.decode_encode,
      LittleEndian.range_eight, Nat.mod_eq_of_lt value.payload_lt]
  rw [decode, payload]
  exact ofPayload_payload value

theorem decode_zeros : decode (List.replicate size 0) = undefined := rfl

end Value

namespace Slot

theorem decode_encode (slot : Slot Handle) : decode slot.encode = slot := by
  cases slot with
  | value v => exact congrArg value v.decode_encode
  | accessor getter setter =>
    have first : handleAt (accessor getter setter).encode 8 = getter := by
      rw [handleAt, encode, List.append_assoc, drop_tagged, List.take_left' (by simp)]
      exact Handle.ofRaw_decode getter
    have second : handleAt (accessor getter setter).encode 16 = setter := by
      have skip : (accessor getter setter).encode.drop 16 = LittleEndian.encode 8 setter.raw := by
        rw [encode, List.drop_left' (by simp)]
      rw [handleAt, skip, List.take_of_length_le (by simp)]
      exact Handle.ofRaw_decode setter
    exact congr (congrArg accessor first) second
  | varRef target =>
    have only : handleAt (varRef target).encode 8 = target := by
      rw [handleAt, encode, List.append_assoc, drop_tagged, List.take_left' (by simp)]
      exact Handle.ofRaw_decode target
    exact congrArg varRef only

theorem decode_zeros : decode (List.replicate size 0) = empty := rfl

end Slot

/-! ## 4. Cells -/

/-- A cell that is one of the first `n` ends before they do. -/
theorem cell_fits {i n size : Nat} (less : i < n) : i * size + size ≤ n * size := by
  rw [← Nat.succ_mul]
  exact Nat.mul_le_mul_right _ less

/-- Two cells are apart. -/
theorem window_splice_cell {bytes source : List UInt8} {i j size : Nat}
    (length : source.length = size) (differ : i ≠ j) :
    window (splice bytes (j * size) source) (i * size) size = window bytes (i * size) size := by
  refine window_splice_apart ?_
  rw [length]
  rcases Nat.lt_or_gt_of_ne differ with before | after
  · exact .inl (cell_fits before)
  · exact .inr (cell_fits after)

/-- How what is in a cell is stored. -/
structure Codec (α : Type) where
  size : Nat
  encode : α → List UInt8
  decode : List UInt8 → α
  /-- What is in a cell that nothing was stored in. -/
  empty : α
  length_encode : ∀ x, (encode x).length = size
  decode_encode : ∀ x, decode (encode x) = x
  decode_zeros : decode (List.replicate size 0) = empty

def Value.codec : Codec (Value Handle) :=
  ⟨size, encode, decode, .undefined, length_encode, decode_encode, decode_zeros⟩

def Slot.codec : Codec (Slot Handle) :=
  ⟨size, encode, decode, empty, length_encode, decode_encode, decode_zeros⟩

namespace Codec

variable {α : Type} (codec : Codec α)

/-- What is in a cell. -/
def read (bytes : List UInt8) (i : Nat) : α :=
  codec.decode (window bytes (i * codec.size) codec.size)

/-- The cells with something else in one of them. -/
def write (bytes : List UInt8) (i : Nat) (x : α) : List UInt8 :=
  splice bytes (i * codec.size) (codec.encode x)

variable {bytes : List UInt8} {i j : Nat} (x : α)

theorem read_write (room : i * codec.size + codec.size ≤ bytes.length) :
    codec.read (codec.write bytes i x) i = x := by
  have length := codec.length_encode x
  have same : window (codec.write bytes i x) (i * codec.size) (codec.encode x).length =
      codec.encode x := window_splice_same (by rwa [length])
  rw [length] at same
  rw [read, same, codec.decode_encode]

theorem read_write_of_ne (differ : i ≠ j) :
    codec.read (codec.write bytes j x) i = codec.read bytes i := by
  rw [read, write, window_splice_cell (codec.length_encode x) differ, read]

theorem read_zeros {n : Nat} (room : i * codec.size + codec.size ≤ n) :
    codec.read (List.replicate n 0) i = codec.empty := by
  rw [read, window_zeros room, codec.decode_zeros]

/-- Cells that both lengths reach are kept. -/
theorem read_fitted {size : Nat} (room : i * codec.size + codec.size ≤ size)
    (inside : i * codec.size + codec.size ≤ bytes.length) :
    codec.read (fitted bytes size) i = codec.read bytes i := by
  rw [read, read, window_fitted room inside]

/-- Cells beyond the old length are empty. -/
theorem read_fitted_beyond {size : Nat} (room : i * codec.size + codec.size ≤ size)
    (beyond : bytes.length ≤ i * codec.size) : codec.read (fitted bytes size) i = codec.empty := by
  rw [read, window_fitted_beyond room beyond, codec.decode_zeros]

end Codec

end HandleHeap
