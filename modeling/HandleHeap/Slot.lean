import HandleHeap.Value

/-!
# Property slots

One cell of a property array: a value, a pair of accessors, or a variable shared with a closure.

A stored slot takes 24 bytes: a tag byte, seven zero bytes, and sixteen bytes that hold a value,
two raw handles, or one raw handle and eight zero bytes. Bytes with an unknown tag read as a
value, and zeroed bytes as the empty slot.
-/

namespace HandleHeap

/-- One cell of a property array. -/
inductive Slot (ρ : Type)
  | value (v : Value ρ)
  /-- An accessor pair. Either side may be null. -/
  | accessor (getter setter : ρ)
  | varRef (target : ρ)
  deriving DecidableEq, Repr, Inhabited

namespace Slot

variable {ρ : Type}

def size : Nat := 24

/-- What an unwritten cell holds. -/
def empty : Slot ρ := value .undefined

/-- The same slot with its handles named otherwise. -/
def map {ρ' : Type} (rename : ρ → ρ') : Slot ρ → Slot ρ'
  | value v => value (v.map rename)
  | accessor getter setter => accessor (rename getter) (rename setter)
  | varRef target => varRef (rename target)

def value? : Slot ρ → Option (Value ρ)
  | value v => some v
  | _ => none

/-- The getter of an accessor, null for other slots. -/
def getter : Slot Handle → Handle
  | accessor getter _ => getter
  | _ => .null

/-- The setter of an accessor, null for other slots. -/
def setter : Slot Handle → Handle
  | accessor _ setter => setter
  | _ => .null

/-- The shared variable, null for other slots. -/
def varTarget : Slot Handle → Handle
  | varRef target => target
  | _ => .null

/-- Whether two slots are equal, floats as numbers. -/
def equal [DecidableEq ρ] : Slot ρ → Slot ρ → Bool
  | value a, value b => a.equal b
  | a, b => a = b

def encode : Slot Handle → List UInt8
  | value v => 0 :: List.replicate 7 0 ++ v.encode
  | accessor getter setter =>
    1 :: List.replicate 7 0 ++ LittleEndian.encode 8 getter.raw ++
      LittleEndian.encode 8 setter.raw
  | varRef target =>
    2 :: List.replicate 7 0 ++ LittleEndian.encode 8 target.raw ++ List.replicate 8 0

/-- The handle whose raw form is stored from position `start` on. -/
def handleAt (bytes : List UInt8) (start : Nat) : Handle :=
  Handle.ofRaw (LittleEndian.decode ((bytes.drop start).take 8))

/-- The slot that 24 stored bytes stand for. -/
def decode (bytes : List UInt8) : Slot Handle :=
  let tag := bytes.headD 0
  if tag = 1 then accessor (handleAt bytes 8) (handleAt bytes 16)
  else if tag = 2 then varRef (handleAt bytes 8)
  else value (Value.decode (bytes.drop 8))

@[simp]
theorem length_encode (slot : Slot Handle) : slot.encode.length = size := by
  cases slot <;> simp [encode, size, Value.size]

end Slot

end HandleHeap
