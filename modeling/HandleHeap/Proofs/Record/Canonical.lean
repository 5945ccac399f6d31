import HandleHeap.Proofs.Record.Window

/-!
# Canonical bytes

Every run of bytes is read as some slot or value, so many runs are read as the same one. Those that
are stored are told by their tags, their padding and the range of their payload: reading such bytes
and storing what was read gives them again, and it gives no others.

* `Value.Canonical`, `Slot.Canonical`: the bytes that are stored, spelled out.
* `Value.encode_decode_iff`, `Slot.encode_decode_iff`: these are the bytes that are kept.
* `Faithful`: what a way of storing and reading does over all contents and all bytes.
* `Value.faithful`, `Slot.faithful`: values and slots are stored so.
-/

namespace HandleHeap

/-! ## 1. Tagged bytes -/

/-- A tag, seven bytes of padding, and the rest. -/
theorem exists_tagged {bytes : List UInt8} {n : Nat} (whole : bytes.length = 8 + n) :
    ∃ tag padding rest, bytes = tag :: padding ++ rest ∧ padding.length = 7 ∧ rest.length = n := by
  cases bytes with
  | nil => rw [List.length_nil] at whole; omega
  | cons tag bytes =>
    rw [List.length_cons] at whole
    refine ⟨tag, bytes.take 7, bytes.drop 7, ?_, ?_, ?_⟩
    · rw [List.cons_append, List.take_append_drop]
    · rw [List.length_take]; omega
    · rw [List.length_drop]; omega

section Tagged

variable {tag tag' : UInt8} {padding rest rest' : List UInt8} (seven : padding.length = 7)

include seven

theorem take_padding : ((tag :: padding ++ rest).drop 1).take 7 = padding :=
  List.take_left' seven

theorem drop_padding : (tag :: padding ++ rest).drop 8 = rest :=
  List.drop_left' (show (tag :: padding).length = 8 by rw [List.length_cons, seven])

/-- Bytes with zeros for padding are those of another tag and rest. -/
theorem tagged_eq_iff : tag' :: List.replicate 7 0 ++ rest' = tag :: padding ++ rest ↔
    tag' = tag ∧ padding = List.replicate 7 0 ∧ rest' = rest := by
  rw [List.cons_append, List.cons_append, List.cons.injEq]
  refine and_congr_right fun _ => ⟨fun same => ?_, ?_⟩
  · obtain ⟨first, second⟩ := List.append_inj same (by rw [List.length_replicate, seven])
    exact ⟨first.symm, second⟩
  · rintro ⟨rfl, rfl⟩
    rfl

end Tagged

namespace LittleEndian

/-- Storing the number that eight bytes spell. -/
theorem encode_decode_eight {bytes : List UInt8} (eight : bytes.length = 8) :
    encode 8 (decode bytes) = bytes := by
  rw [← eight, encode_decode]

theorem decode_lt_eight {bytes : List UInt8} (eight : bytes.length = 8) :
    decode bytes < 0x10000000000000000 := by
  have less := decode_lt bytes
  rwa [eight] at less

/-- Eight bytes that spell a number. -/
theorem encode_eq_iff {bytes : List UInt8} (eight : bytes.length = 8) {n : Nat}
    (less : n < 0x10000000000000000) : encode 8 n = bytes ↔ n = decode bytes := by
  constructor
  · rintro rfl
    rw [decode_encode, range_eight, Nat.mod_eq_of_lt less]
  · rintro rfl
    exact encode_decode_eight eight

end LittleEndian

/-! ## 2. Values -/

namespace Value

/-- The payloads that are stored with a tag. -/
def Fits (tag : UInt8) (payload : Nat) : Prop :=
  (tag = 0 ∨ tag = 1) ∧ payload = 0 ∨ tag = 2 ∧ payload ≤ 1 ∨ tag = 3 ∧ payload < 2 ^ 32 ∨
    tag = 4 ∨ tag = 5

/-- The bytes that a value is stored as. -/
structure Canonical (bytes : List UInt8) : Prop where
  padding : (bytes.drop 1).take 7 = List.replicate 7 0
  payload : Fits (bytes.headD 0) (LittleEndian.decode (bytes.drop 8))

theorem fits (value : Value Handle) : Fits value.tag value.payload := by
  cases value with
  | undefined => exact .inl ⟨.inl rfl, rfl⟩
  | null => exact .inl ⟨.inr rfl, rfl⟩
  | bool b => exact .inr (.inl ⟨rfl, Bool.toNat_le b⟩)
  | int n => exact .inr (.inr (.inl ⟨rfl, n.toUInt32.toNat_lt⟩))
  | float bits => exact .inr (.inr (.inr (.inl rfl)))
  | object target => exact .inr (.inr (.inr (.inr rfl)))

/-- A tag and a payload are those of the value they stand for, if some value has them. -/
theorem ofPayload_kept_iff {tag : UInt8} {payload : Nat} (less : payload < 0x10000000000000000) :
    (ofPayload tag payload).tag = tag ∧ (ofPayload tag payload).payload = payload ↔
      Fits tag payload := by
  constructor
  · rintro ⟨sameTag, samePayload⟩
    have fits := (ofPayload tag payload).fits
    rwa [sameTag, samePayload] at fits
  · rintro (⟨rfl | rfl, rfl⟩ | ⟨rfl, small⟩ | ⟨rfl, small⟩ | rfl | rfl)
    · exact ⟨rfl, rfl⟩
    · exact ⟨rfl, rfl⟩
    · refine ⟨rfl, ?_⟩
      rcases Nat.le_one_iff_eq_zero_or_eq_one.mp small with rfl | rfl <;> rfl
    · exact ⟨rfl, UInt32.toNat_ofNat_of_lt' small⟩
    · exact ⟨rfl, UInt64.toNat_ofNat_of_lt' less⟩
    · exact ⟨rfl, Handle.raw_ofRaw less⟩

/-- The canonical bytes are those that are stored again as they were read. -/
theorem encode_decode_iff {bytes : List UInt8} (whole : bytes.length = size) :
    encode (decode bytes) = bytes ↔ Canonical bytes := by
  obtain ⟨tag, padding, rest, rfl, seven, eight⟩ := exists_tagged (n := 8) whole
  have payload := LittleEndian.decode_lt_eight eight
  have read : decode (tag :: padding ++ rest) = ofPayload tag (LittleEndian.decode rest) := by
    rw [decode, drop_padding seven, List.take_of_length_le (Nat.le_of_eq eight)]
    rfl
  rw [read, encode, tagged_eq_iff seven, LittleEndian.encode_eq_iff eight (payload_lt _),
    and_left_comm, ofPayload_kept_iff payload]
  constructor
  · rintro ⟨zeros, fits⟩
    refine ⟨(take_padding seven).trans zeros, ?_⟩
    rwa [drop_padding seven]
  · rintro ⟨zeros, fits⟩
    rw [drop_padding seven] at fits
    exact ⟨(take_padding seven).symm.trans zeros, fits⟩

end Value

/-! ## 3. Slots -/

namespace Slot

/-- The bytes that a slot is stored as. -/
structure Canonical (bytes : List UInt8) : Prop where
  padding : (bytes.drop 1).take 7 = List.replicate 7 0
  content : bytes.headD 0 = 0 ∧ Value.Canonical (bytes.drop 8) ∨ bytes.headD 0 = 1 ∨
    bytes.headD 0 = 2 ∧ bytes.drop 16 = List.replicate 8 0

/-- Storing the handle that eight bytes spell. -/
theorem encode_raw_ofRaw {bytes : List UInt8} (eight : bytes.length = 8) :
    LittleEndian.encode 8 (Handle.ofRaw (LittleEndian.decode bytes)).raw = bytes := by
  rw [Handle.raw_ofRaw (LittleEndian.decode_lt_eight eight),
    LittleEndian.encode_decode_eight eight]

/-- The canonical bytes are those that are stored again as they were read. -/
theorem encode_decode_iff {bytes : List UInt8} (whole : bytes.length = size) :
    encode (decode bytes) = bytes ↔ Canonical bytes := by
  obtain ⟨tag, padding, rest, rfl, seven, sixteen⟩ := exists_tagged (n := 16) whole
  obtain ⟨first, second, rfl, eight, eight'⟩ :
      ∃ first second, rest = first ++ second ∧ first.length = 8 ∧ second.length = 8 :=
    ⟨rest.take 8, rest.drop 8, (List.take_append_drop 8 rest).symm,
      by rw [List.length_take, sixteen]; rfl, by rw [List.length_drop, sixteen]⟩
  have behind : (tag :: padding ++ (first ++ second)).drop 16 = second := by
    rw [← List.append_assoc]
    exact List.drop_left' (by rw [List.length_append, List.length_cons, seven, eight])
  have getter : handleAt (tag :: padding ++ (first ++ second)) 8 =
      Handle.ofRaw (LittleEndian.decode first) := by
    rw [handleAt, drop_padding seven, List.take_left' eight]
  have setter : handleAt (tag :: padding ++ (first ++ second)) 16 =
      Handle.ofRaw (LittleEndian.decode second) := by
    rw [handleAt, behind, List.take_of_length_le (Nat.le_of_eq eight')]
  have spelled : Canonical (tag :: padding ++ (first ++ second)) ↔
      padding = List.replicate 7 0 ∧ (tag = 0 ∧ Value.Canonical (first ++ second) ∨ tag = 1 ∨
        tag = 2 ∧ second = List.replicate 8 0) := by
    constructor
    · rintro ⟨zeros, content⟩
      rw [take_padding seven] at zeros
      rw [drop_padding seven, behind] at content
      exact ⟨zeros, content⟩
    · rintro ⟨zeros, content⟩
      refine ⟨(take_padding seven).trans zeros, ?_⟩
      rw [drop_padding seven, behind]
      exact content
  rw [spelled, decode, getter, setter, drop_padding seven]
  show encode (if tag = 1 then _ else if tag = 2 then _ else _) = _ ↔ _
  split
  · next is =>
    rw [encode, encode_raw_ofRaw eight, encode_raw_ofRaw eight', List.append_assoc,
      tagged_eq_iff seven]
    simp [is]
  split
  · next is =>
    rw [encode, encode_raw_ofRaw eight, List.append_assoc, tagged_eq_iff seven]
    simp [is, eq_comm]
  · next accessor varRef =>
    rw [encode, tagged_eq_iff seven, Value.encode_decode_iff sixteen, eq_comm]
    simp [accessor, varRef, and_left_comm]

/-- A tag that no slot has is read as that of a value, and stored as it. -/
example : encode (decode (9 :: List.replicate 23 0)) = List.replicate 24 0 := by decide

end Slot

/-! ## 4. Storing and reading -/

/-- A way of storing something in `size` bytes and reading it. -/
structure Faithful {α : Type} (size : Nat) (encode : α → List UInt8) (decode : List UInt8 → α)
    (empty : α) (canonical : List UInt8 → Prop) : Prop where
  /-- What is in the bytes afterwards does not depend on what was in them. -/
  covers : ∀ (x : α) {bytes : List UInt8} {start : Nat}, start + size ≤ bytes.length →
    window (splice bytes start (encode x)) start size = encode x
  back : ∀ x, decode (encode x) = x
  settles : ∀ {bytes : List UInt8}, bytes.length = size →
    decode (encode (decode bytes)) = decode bytes
  kept_iff : ∀ {bytes : List UInt8}, bytes.length = size →
    (encode (decode bytes) = bytes ↔ ∃ x, encode x = bytes)
  stored_iff : ∀ {bytes : List UInt8}, bytes.length = size →
    ((∃ x, encode x = bytes) ↔ canonical bytes)
  zeros : decode (List.replicate size 0) = empty

theorem Codec.faithful {α : Type} (codec : Codec α) {canonical : List UInt8 → Prop}
    (spelled : ∀ {bytes : List UInt8}, bytes.length = codec.size →
      (codec.encode (codec.decode bytes) = bytes ↔ canonical bytes)) :
    Faithful codec.size codec.encode codec.decode codec.empty canonical := by
  have kept {bytes : List UInt8} : codec.encode (codec.decode bytes) = bytes ↔
      ∃ x, codec.encode x = bytes := by
    refine ⟨fun same => ⟨_, same⟩, ?_⟩
    rintro ⟨x, rfl⟩
    rw [codec.decode_encode]
  refine ⟨fun x bytes start fits => ?_, codec.decode_encode, fun _ => codec.decode_encode _,
    fun _ => kept, fun whole => kept.symm.trans (spelled whole), codec.decode_zeros⟩
  have length := codec.length_encode x
  have same : window (splice bytes start (codec.encode x)) start (codec.encode x).length =
      codec.encode x := window_splice_same (by rwa [length])
  rwa [length] at same

theorem Value.faithful : Faithful size encode decode .undefined Canonical :=
  codec.faithful encode_decode_iff

theorem Slot.faithful : Faithful size encode decode empty Canonical :=
  codec.faithful encode_decode_iff

end HandleHeap
