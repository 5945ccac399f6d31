import HandleHeap.Handle
import HandleHeap.LittleEndian

/-!
# Script values

A script value as the heap stores it. `Value ρ` names objects by `ρ`: stored values name them by
handle.

A stored value takes 16 bytes: a tag byte, seven zero bytes, and eight bytes of payload, least
significant first. Bytes with an unknown tag read as `undefined`, and so do zeroed bytes.
-/

namespace HandleHeap

/-- A script value. Floats are kept as their 64 bits, so that every bit pattern survives. -/
inductive Value (ρ : Type)
  | undefined
  | null
  | bool (b : Bool)
  | int (n : Int32)
  | float (bits : UInt64)
  | object (target : ρ)
  deriving DecidableEq, Repr, Inhabited

namespace Value

variable {ρ : Type}

def size : Nat := 16

/-- The same value with its object named otherwise. -/
def map {ρ' : Type} (rename : ρ → ρ') : Value ρ → Value ρ'
  | undefined => undefined
  | null => null
  | bool b => bool b
  | int n => int n
  | float bits => float bits
  | object target => object (rename target)

def asObject : Value ρ → Option ρ
  | object target => some target
  | _ => none

/-- 64 float bits without the sign bit. -/
def magnitude (bits : UInt64) : Nat := bits.toNat % 0x8000000000000000

/-- Whether 64 float bits are no number: the exponent is all ones and the fraction is not zero. -/
def isNaN (bits : UInt64) : Bool := 0x7ff0000000000000 < magnitude bits

/-- Whether two floats are equal as numbers: a NaN equals nothing, and the zeros are equal. -/
def floatEq (a b : UInt64) : Bool :=
  !isNaN a && !isNaN b && (a == b || magnitude a == 0 && magnitude b == 0)

/-- Whether two values are equal, floats as numbers. -/
def equal [DecidableEq ρ] : Value ρ → Value ρ → Bool
  | float a, float b => floatEq a b
  | a, b => a = b

def tag : Value ρ → UInt8
  | undefined => 0
  | null => 1
  | bool _ => 2
  | int _ => 3
  | float _ => 4
  | object _ => 5

/-- The payload of a value. An integer counts as its 32 bits, without sign. -/
def payload : Value Handle → Nat
  | undefined | null => 0
  | bool b => b.toNat
  | int n => n.toUInt32.toNat
  | float bits => bits.toNat
  | object target => target.raw

def encode (value : Value Handle) : List UInt8 :=
  value.tag :: List.replicate 7 0 ++ LittleEndian.encode 8 value.payload

/-- The value with a given tag and payload. -/
def ofPayload (tag : UInt8) (payload : Nat) : Value Handle :=
  if tag = 1 then null
  else if tag = 2 then bool (payload != 0)
  else if tag = 3 then int (UInt32.ofNat payload).toInt32
  else if tag = 4 then float (UInt64.ofNat payload)
  else if tag = 5 then object (Handle.ofRaw payload)
  else undefined

/-- The value that 16 stored bytes stand for. -/
def decode (bytes : List UInt8) : Value Handle :=
  ofPayload (bytes.headD 0) (LittleEndian.decode ((bytes.drop 8).take 8))

@[simp]
theorem length_encode (value : Value Handle) : value.encode.length = size := by
  simp [encode, size]

end Value

end HandleHeap
