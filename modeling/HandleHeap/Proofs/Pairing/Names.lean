import HandleHeap.Heap.Operation

/-!
# Records named otherwise

Values, slots, operations and root sets hold the names of records, and can hold others in their place.

* `Operation.map_map`, `Operation.map_id`: to name the records otherwise twice, or not at all.
* `RootSet.map_add`, `RootSet.map_set`, `RootSet.map_remove`: which slots of a root set are in use,
  which is used next and what is refused do not depend on the handles in it.
-/

namespace HandleHeap

/-! ## 1. Values and operations -/

theorem Scalar.map_id (scalar : Scalar) (value : scalar.Carrier Handle) :
    scalar.map id value = value := by
  cases scalar <;> rfl

theorem Value.map_id (value : Value Handle) : value.map id = value := by
  cases value <;> rfl

theorem Slot.map_id (slot : Slot Handle) : slot.map id = slot := by
  cases slot with
  | value v => exact congrArg Slot.value v.map_id
  | _ => rfl

theorem Scalar.map_map {ρ ρ' ρ'' : Type} (f : ρ → ρ') (g : ρ' → ρ'') (scalar : Scalar)
    (value : scalar.Carrier ρ) :
    scalar.map g (scalar.map f value) = scalar.map (g ∘ f) value := by
  cases scalar <;> rfl

theorem Value.map_map {ρ ρ' ρ'' : Type} (f : ρ → ρ') (g : ρ' → ρ'') (value : Value ρ) :
    (value.map f).map g = value.map (g ∘ f) := by
  cases value <;> rfl

theorem Slot.map_map {ρ ρ' ρ'' : Type} (f : ρ → ρ') (g : ρ' → ρ'') (slot : Slot ρ) :
    (slot.map f).map g = slot.map (g ∘ f) := by
  cases slot with
  | value v => exact congrArg Slot.value (v.map_map f g)
  | _ => rfl

/-- Naming the records otherwise twice. -/
theorem Operation.map_map {ρ ρ' ρ'' : Type} (f : ρ → ρ') (g : ρ' → ρ'')
    (operation : Operation ρ) : (operation.map f).map g = operation.map (g ∘ f) := by
  cases operation with
  | @set _ scalar target field value =>
    exact congrArg (Operation.set (g (f target)) field) (scalar.map_map f g value)
  | setSlot storage index slot => exact congrArg (Operation.setSlot _ index) (slot.map_map f g)
  | setSlotValue storage index value =>
    exact congrArg (Operation.setSlotValue _ index) (value.map_map f g)
  | setElement object index value =>
    exact congrArg (Operation.setElement _ index) (value.map_map f g)
  | pushElement object value => exact congrArg (Operation.pushElement _) (value.map_map f g)
  | _ => rfl

theorem Operation.map_id (operation : Operation Handle) : operation.map id = operation := by
  cases operation with
  | @set _ scalar target field value =>
    exact congrArg (Operation.set target field) (scalar.map_id value)
  | setSlot storage index slot => exact congrArg (Operation.setSlot _ index) slot.map_id
  | setSlotValue storage index value => exact congrArg (Operation.setSlotValue _ index) value.map_id
  | setElement object index value => exact congrArg (Operation.setElement _ index) value.map_id
  | pushElement object value => exact congrArg (Operation.pushElement _) value.map_id
  | _ => rfl

/-! ## 2. Root sets -/

namespace RootSet

variable (f : Handle → Handle) (roots : RootSet)

/-- The same set with its handles named otherwise. -/
def map (roots : RootSet) : RootSet := ⟨roots.slots.map (Option.map f), roots.free, roots.count⟩

theorem map_id : roots.map id = roots := by
  simp [map]

theorem map_empty : empty.map f = empty := by
  simp [map, empty]

@[simp]
theorem get?_map (id : RootId) : (roots.map f).get? id = (roots.get? id).map f := by
  simp only [get?, map, Array.getElem?_map]
  rcases roots.slots[id.index]? with _ | _ | handle <;> rfl

theorem toList_map : (roots.map f).toList = roots.toList.map (Prod.map id f) := by
  simp only [toList, map, Array.toList_map, List.zipIdx_map, List.filterMap_map, List.map_filterMap]
  congr 1
  funext ⟨slot, index⟩
  cases slot <;> rfl

theorem map_occupy (index : Nat) (handle : Handle) :
    occupy index (f handle) (roots.map f) = ⟨(occupy index handle roots).answer,
      (occupy index handle roots).state.map f, (occupy index handle roots).events⟩ := by
  have size : (roots.map f).slots.size = roots.slots.size := Array.size_map
  unfold occupy
  rw [size]
  split
  · simp [map, Array.map_setIfInBounds]
  · rfl

theorem map_add (handle : Handle) :
    add (f handle) (roots.map f) = ⟨(add handle roots).answer, (add handle roots).state.map f,
      (add handle roots).events⟩ := by
  obtain ⟨slots, free, count⟩ := roots
  cases free with
  | cons index rest => exact map_occupy f ⟨slots, rest, count⟩ index handle
  | nil =>
    have occupied := map_occupy f ⟨slots.push none, [], count⟩ slots.size handle
    have push : (slots.push none).map (Option.map f) = (slots.map (Option.map f)).push none :=
      Array.map_push
    simp only [map, push] at occupied
    simp only [add, map, Array.size_map]
    split
    · exact occupied
    · rfl

theorem map_set (id : RootId) (handle : Handle) :
    set id (f handle) (roots.map f) = ⟨(set id handle roots).answer,
      (set id handle roots).state.map f, (set id handle roots).events⟩ := by
  unfold set
  rw [get?_map, Option.isSome_map]
  split
  · simp [map, Array.map_setIfInBounds]
  · rfl

theorem map_remove (id : RootId) :
    remove id (roots.map f) = ⟨(remove id roots).answer, (remove id roots).state.map f,
      (remove id roots).events⟩ := by
  unfold remove
  rw [get?_map, Option.isSome_map]
  split
  · by_cases none : roots.count = 0 <;> simp [map, Array.map_setIfInBounds, none]
  · rfl

end RootSet

end HandleHeap
