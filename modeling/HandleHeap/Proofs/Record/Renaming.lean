import HandleHeap.Proofs.Record.Window
import Mathlib.Data.List.Pairwise

/-!
# Records with their handles named otherwise

Two records hold the same, but for the names of handles, if their fields do (`SameFields`) or their
cells (`SameCells`). Nothing is said of the bytes between fields. What is written to a field or a
cell of both, named accordingly, leaves the others alone, since no two fields share a byte
(`Field.eq_or_apart`).
-/

namespace HandleHeap

/-! ## 1. Fields -/

/-- Two fields of one layout have no byte in common. -/
def SomeField.Apart (a b : SomeField) : Prop :=
  a.layout = b.layout → a.field.offset + a.scalar.width ≤ b.field.offset ∨
    b.field.offset + b.scalar.width ≤ a.field.offset

instance (a b : SomeField) : Decidable (a.Apart b) := inferInstanceAs (Decidable (_ → _))

instance : Std.Symm SomeField.Apart := ⟨fun _ _ apart same => (apart same.symm).symm⟩

theorem apart_catalogue : Field.catalogue.Pairwise SomeField.Apart := by decide

namespace Field

variable {layout : Layout} {scalar other : Scalar}

/-- One of the fields that go by a name. -/
def Listed (field : Field layout scalar) : Prop := (⟨layout, scalar, field⟩ : SomeField) ∈ catalogue

theorem eq_or_apart {a : Field layout scalar} {b : Field layout other} (left : a.Listed)
    (right : b.Listed) : (⟨layout, scalar, a⟩ : SomeField) = ⟨layout, other, b⟩ ∨ a.Apart b := by
  by_cases same : (⟨layout, scalar, a⟩ : SomeField) = ⟨layout, other, b⟩
  · exact .inl same
  · exact .inr (apart_catalogue.forall left right same rfl)

/-- The fields that tell nothing of buckets: all but the hash of a shape and its link. -/
def Told : {layout : Layout} → {scalar : Scalar} → Field layout scalar → Prop
  | .object, _, field => field.Listed
  | .shape, _, field =>
    field.Listed ∧ field.Apart ShapeField.hash ∧ field.Apart ShapeField.hashNext

/-- The fields that buckets do not depend on: all but the prototype of a shape, its hash, its link and
its mark. -/
def Free : {layout : Layout} → {scalar : Scalar} → Field layout scalar → Prop
  | .object, _, field => field.Listed
  | .shape, _, field =>
    field.Listed ∧ field.Apart ShapeField.proto ∧ field.Apart ShapeField.hash ∧
      field.Apart ShapeField.hashNext ∧ field.Apart ShapeField.isHashed

theorem Told.listed {field : Field layout scalar} (told : field.Told) : field.Listed := by
  cases layout with
  | object => exact told
  | shape => exact told.1

theorem told_proto : ShapeField.proto.Told := ⟨by simp [Listed, catalogue], by decide, by decide⟩

theorem told_propCount : ShapeField.propCount.Told :=
  ⟨by simp [Listed, catalogue], by decide, by decide⟩

theorem told_propSize : ShapeField.propSize.Told :=
  ⟨by simp [Listed, catalogue], by decide, by decide⟩

theorem told_isHashed : ShapeField.isHashed.Told :=
  ⟨by simp [Listed, catalogue], by decide, by decide⟩

theorem Free.listed {field : Field layout scalar} (free : field.Free) : field.Listed := by
  cases layout with
  | object => exact free
  | shape => exact free.1

end Field

/-- Two records of one layout hold the same but for the names of handles, hashes and links. -/
structure SameFields (rename : Handle → Handle) (layout : Layout) (a b : List UInt8) : Prop where
  length : a.length = b.length
  read : ∀ {scalar : Scalar} {field : Field layout scalar}, field.Told →
    field.read a = scalar.map rename (field.read b)

namespace SameFields

variable {rename : Handle → Handle} {layout : Layout} {scalar : Scalar} {a b : List UInt8}

theorem zeros (null : rename .null = .null) :
    SameFields rename layout (List.replicate layout.size 0) (List.replicate layout.size 0) := by
  refine ⟨rfl, fun {scalar field} _ => ?_⟩
  rw [Field.read_zeros]
  cases scalar with
  | handle => exact null.symm
  | _ => rfl

/-- Setting a field of both. -/
theorem write (same : SameFields rename layout a b) (whole : a.length = layout.size)
    {field : Field layout scalar} (listed : field.Listed) (value : scalar.Carrier Handle) :
    SameFields rename layout (field.write (scalar.map rename value) a) (field.write value b) := by
  refine ⟨by simpa using same.length, fun {other read} told => ?_⟩
  rcases Field.eq_or_apart told.listed listed with own | apart
  · cases own
    rw [Field.read_write _ _ whole, Field.read_write _ _ (same.length.symm.trans whole)]
  · rw [Field.read_write_apart _ _ apart, Field.read_write_apart _ _ apart, same.read told]

/-- Setting a field that is not compared. -/
theorem write_apart (same : SameFields rename layout a b) {field : Field layout scalar}
    (apart : ∀ {other : Scalar} {read : Field layout other}, read.Told → read.Apart field)
    (value value' : scalar.Carrier Handle) :
    SameFields rename layout (field.write value a) (field.write value' b) := by
  refine ⟨by simpa using same.length, fun told => ?_⟩
  rw [Field.read_write_apart _ _ (apart told), Field.read_write_apart _ _ (apart told),
    same.read told]

end SameFields

/-! ## 2. Cells -/

/-- The cells of two records hold the same but for the names of handles. -/
structure SameCells {α : Type} (codec : Codec α) (rename : α → α) (a b : List UInt8) : Prop where
  length : a.length = b.length
  read : ∀ {i}, i * codec.size + codec.size ≤ a.length → codec.read a i = rename (codec.read b i)

namespace SameCells

variable {α : Type} {codec : Codec α} {rename : α → α} {a b : List UInt8}

theorem zeros (empty : rename codec.empty = codec.empty) (n : Nat) :
    SameCells codec rename (List.replicate n 0) (List.replicate n 0) := by
  refine ⟨rfl, fun {i} room => ?_⟩
  rw [List.length_replicate] at room
  rw [codec.read_zeros room, empty]

/-- Storing something in a cell of both. -/
theorem write (same : SameCells codec rename a b) {i : Nat}
    (room : i * codec.size + codec.size ≤ a.length) (x : α) :
    SameCells codec rename (codec.write a i (rename x)) (codec.write b i x) := by
  refine ⟨(length_splice ..).trans (same.length.trans (length_splice ..).symm), fun {j} room' => ?_⟩
  rw [Codec.write, length_splice] at room'
  by_cases own : j = i
  · subst own
    rw [codec.read_write _ room, codec.read_write _ (same.length ▸ room)]
  · rw [codec.read_write_of_ne _ own, codec.read_write_of_ne _ own, same.read room']

/-- The cells that are cut or added are the same on both. -/
theorem fitted (same : SameCells codec rename a b) (empty : rename codec.empty = codec.empty)
    {n : Nat} (whole : a.length = n * codec.size) (size : Nat) :
    SameCells codec rename (HandleHeap.fitted a size) (HandleHeap.fitted b size) := by
  refine ⟨by rw [length_fitted, length_fitted], fun {i} room => ?_⟩
  rw [length_fitted] at room
  have length := same.length
  by_cases known : i < n
  · have inside : i * codec.size + codec.size ≤ a.length := whole ▸ cell_fits known
    rw [codec.read_fitted room inside, codec.read_fitted room (length ▸ inside)]
    exact same.read inside
  · have beyond : a.length ≤ i * codec.size :=
      whole ▸ Nat.mul_le_mul_right _ (Nat.le_of_not_lt known)
    rw [codec.read_fitted_beyond room beyond, codec.read_fitted_beyond room (length ▸ beyond),
      empty]

end SameCells

end HandleHeap
