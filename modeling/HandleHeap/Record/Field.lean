import HandleHeap.Handle
import HandleHeap.LittleEndian
import HandleHeap.Record.Kind

/-!
# Fields

A field is a place in a record with a fixed layout: an offset and the type of what is stored
there. A field fits into its record by its type, so `Field.at?` is where a misplaced one is
refused.
-/

namespace HandleHeap

inductive Scalar
  | u8
  | u16
  | u32
  | u64
  | flag
  | handle
  deriving DecidableEq, Repr, Inhabited

namespace Scalar

def width : Scalar → Nat
  | u8 | flag => 1
  | u16 => 2
  | u32 => 4
  | u64 | handle => 8

/-- The values of a scalar type, records being named by `ρ`. -/
@[reducible]
def Carrier (ρ : Type) : Scalar → Type
  | u8 => UInt8
  | u16 => UInt16
  | u32 => UInt32
  | u64 => UInt64
  | flag => Bool
  | handle => ρ

/-- The same scalar with its record named otherwise. -/
def map {ρ ρ' : Type} (rename : ρ → ρ') : (scalar : Scalar) → scalar.Carrier ρ → scalar.Carrier ρ'
  | u8, v => v
  | u16, v => v
  | u32, v => v
  | u64, v => v
  | flag, v => v
  | handle, v => rename v

/-- What stands for an unreadable field: zero, false or the null handle. -/
def sentinel : (scalar : Scalar) → scalar.Carrier Handle
  | u8 => 0
  | u16 => 0
  | u32 => 0
  | u64 => 0
  | flag => false
  | handle => .null

def number : (scalar : Scalar) → scalar.Carrier Handle → Nat
  | u8, v => UInt8.toNat v
  | u16, v => UInt16.toNat v
  | u32, v => UInt32.toNat v
  | u64, v => UInt64.toNat v
  | flag, v => Bool.toNat v
  | handle, v => Handle.raw v

/-- The scalar that a number stands for. Every number but zero is true. -/
def ofNumber : (scalar : Scalar) → Nat → scalar.Carrier Handle
  | u8, n => UInt8.ofNat n
  | u16, n => UInt16.ofNat n
  | u32, n => UInt32.ofNat n
  | u64, n => UInt64.ofNat n
  | flag, n => n != 0
  | handle, n => Handle.ofRaw n

def encode (scalar : Scalar) (v : scalar.Carrier Handle) : List UInt8 :=
  LittleEndian.encode scalar.width (scalar.number v)

/-- The scalar that stored bytes stand for. -/
def decode (scalar : Scalar) (bytes : List UInt8) : scalar.Carrier Handle :=
  scalar.ofNumber (LittleEndian.decode bytes)

@[simp]
theorem length_encode (scalar : Scalar) (v : scalar.Carrier Handle) :
    (scalar.encode v).length = scalar.width := by
  simp [encode]

theorem decode_encode (scalar : Scalar) (v : scalar.Carrier Handle) :
    scalar.decode (scalar.encode v) = v := by
  unfold decode encode
  rw [LittleEndian.decode_encode]
  cases scalar with
  | u8 => exact (congrArg UInt8.ofNat (Nat.mod_eq_of_lt (UInt8.toNat_lt v))).trans UInt8.ofNat_toNat
  | u16 =>
    exact (congrArg UInt16.ofNat (Nat.mod_eq_of_lt (UInt16.toNat_lt v))).trans UInt16.ofNat_toNat
  | u32 =>
    exact (congrArg UInt32.ofNat (Nat.mod_eq_of_lt (UInt32.toNat_lt v))).trans UInt32.ofNat_toNat
  | u64 =>
    exact (congrArg UInt64.ofNat (Nat.mod_eq_of_lt (UInt64.toNat_lt v))).trans UInt64.ofNat_toNat
  | flag => cases v <;> rfl
  | handle =>
    exact (congrArg Handle.ofRaw (Nat.mod_eq_of_lt (Handle.raw_lt v))).trans (Handle.ofRaw_raw v)

end Scalar

/-- The record kinds with a fixed layout. -/
inductive Layout
  | object
  | shape
  deriving DecidableEq, Repr, Inhabited

namespace Layout

def kind : Layout → RecordKind
  | object => .object
  | shape => .shape

def size : Layout → Nat
  | object => 40
  | shape => 40

end Layout

/-- A place for a scalar in the records of one layout. -/
structure Field (layout : Layout) (scalar : Scalar) where
  offset : Nat
  name : String
  fits : offset + scalar.width ≤ layout.size := by decide

namespace Field

variable {layout : Layout} {scalar : Scalar}

/-- The field at an offset, if it lies inside the record. -/
def at? (layout : Layout) (scalar : Scalar) (offset : Nat) (name : String) :
    Option (Field layout scalar) :=
  if fits : offset + scalar.width ≤ layout.size then some ⟨offset, name, fits⟩ else none

def describe (field : Field layout scalar) : String :=
  layout.kind.describe ++ "." ++ field.name

end Field

end HandleHeap
