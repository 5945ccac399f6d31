import HandleHeap.Proofs.Handle.Accounting
import HandleHeap.Roots

/-!
# The accounts of a root set

As in a handle table, the slots, the free list and the count of a root set agree in every set that
comes from the empty one, so that adding and dropping a root never fault.

* `Accounted`: the accounts agree. `Accounted.add`, `Accounted.set`, `Accounted.remove` keep it.
* `add_of_free`, `add_of_room`: what adding a root does then.
* `add_eq_error`, `set_eq_error`, `remove_answers`: how the three can end.
-/

namespace HandleHeap.RootSet

/-- The slots, the free list and the count agree. -/
structure Accounted (roots : RootSet) : Prop where
  count_eq : roots.count = roots.slots.toList.countP Option.isSome
  nodup : roots.free.Nodup
  free_iff : ∀ index, index ∈ roots.free ↔ roots.slots[index]? = some none

theorem accounted_empty : Accounted .empty := ⟨rfl, List.nodup_nil, fun index => by simp [empty]⟩

variable {roots : RootSet}

theorem get?_isSome_iff {id : RootId} :
    (roots.get? id).isSome = true ↔ ∃ handle, roots.slots[id.index]? = some (some handle) := by
  unfold get?
  rcases roots.slots[id.index]? with _ | _ | handle <;> simp

/-! ## 1. Adding a root -/

theorem add_of_free (accounted : roots.Accounted) {index : Nat} {rest : List Nat}
    (free : roots.free = index :: rest) (handle : Handle) :
    add handle roots = ⟨.ok ⟨index⟩,
      { slots := roots.slots.setIfInBounds index (some handle), free := rest,
        count := roots.count + 1 }, []⟩ := by
  have vacant := (accounted.free_iff index).mp (free ▸ List.mem_cons_self)
  have inside : index < roots.slots.size := (Array.getElem?_eq_some_iff.mp vacant).1
  simp only [add, free, occupy, if_pos inside]

/-- A set with a vacant slot more, which is the only free one. -/
def extended (roots : RootSet) : RootSet :=
  { roots with slots := roots.slots.push none, free := [roots.slots.size] }

/-- With no slot free, a new slot is taken as if it had been free. -/
theorem add_of_room (none : roots.free = []) (room : roots.slots.size < 0x100000000)
    (handle : Handle) : add handle roots = add handle roots.extended := by
  obtain ⟨slots, free, count⟩ := roots
  cases none
  simp only [add, extended, if_pos room]

theorem add_of_full (none : roots.free = []) (full : ¬ roots.slots.size < 0x100000000)
    (handle : Handle) : add handle roots = ⟨.error (.refused .handleTableFull), roots, []⟩ := by
  simp only [add, none, if_neg full]

theorem Accounted.extended (accounted : roots.Accounted) (none : roots.free = []) :
    roots.extended.Accounted where
  count_eq := by
    show roots.count = (roots.slots.push .none).toList.countP _
    rw [Array.toList_push, List.countP_append, ← accounted.count_eq]
    rfl
  nodup := List.nodup_singleton _
  free_iff index := by
    have old := accounted.free_iff index
    rw [none] at old
    show index ∈ [roots.slots.size] ↔ (roots.slots.push .none)[index]? = some .none
    rw [List.mem_singleton, Array.getElem?_push]
    by_cases last : index = roots.slots.size
    · simp [last]
    · simpa [last] using old

theorem Accounted.add_free (accounted : roots.Accounted) {index : Nat} {rest : List Nat}
    (free : roots.free = index :: rest) (handle : Handle) :
    (RootSet.add handle roots).state.Accounted := by
  have vacant := (accounted.free_iff index).mp (free ▸ List.mem_cons_self)
  have nodup := accounted.nodup
  rw [free, List.nodup_cons] at nodup
  rw [add_of_free accounted free]
  refine ⟨?_, nodup.2, fun other => ?_⟩
  · have count := HandleTable.countP_setIfInBounds vacant (some handle) Option.isSome
    have before := accounted.count_eq
    simp only [Option.isSome_none, Bool.false_eq_true, if_false, Option.isSome_some, if_true,
      Nat.add_zero] at count
    show roots.count + 1 = (roots.slots.setIfInBounds index (some handle)).toList.countP _
    omega
  · have old := accounted.free_iff other
    rw [free, List.mem_cons] at old
    show other ∈ rest ↔ (roots.slots.setIfInBounds index (some handle))[other]? = some none
    rw [Array.getElem?_setIfInBounds]
    by_cases same : other = index
    · subst same
      simp [nodup.1, (Array.getElem?_eq_some_iff.mp vacant).1]
    · rw [if_neg (Ne.symm same)]
      simpa [same] using old

theorem Accounted.add (accounted : roots.Accounted) (handle : Handle) :
    (RootSet.add handle roots).state.Accounted := by
  cases free : roots.free with
  | cons index rest => exact accounted.add_free free handle
  | nil =>
    by_cases room : roots.slots.size < 0x100000000
    · rw [add_of_room free room]
      exact (accounted.extended free).add_free rfl handle
    · rw [add_of_full free room]
      exact accounted

/-- Where the accounts agree, only a full set takes no root. -/
theorem Accounted.add_eq_error (accounted : roots.Accounted) {handle : Handle} {stop : Stop}
    (h : (RootSet.add handle roots).answer = .error stop) :
    stop = .refused .handleTableFull := by
  cases free : roots.free with
  | cons index rest =>
    rw [add_of_free accounted free] at h
    cases h
  | nil =>
    by_cases room : roots.slots.size < 0x100000000
    · rw [add_of_room free room, add_of_free (accounted.extended free) rfl] at h
      cases h
    · rw [add_of_full free room] at h
      exact (Except.error.inj h).symm

/-! ## 2. Changing and dropping a root -/

theorem Accounted.set (accounted : roots.Accounted) (id : RootId) (handle : Handle) :
    (RootSet.set id handle roots).state.Accounted := by
  unfold RootSet.set
  split
  · next used =>
    obtain ⟨old, known⟩ := get?_isSome_iff.mp used
    refine ⟨?_, accounted.nodup, fun other => ?_⟩
    · have count := HandleTable.countP_setIfInBounds known (some handle) Option.isSome
      simp only [Option.isSome_some, if_true] at count
      have before := accounted.count_eq
      show roots.count = (roots.slots.setIfInBounds id.index (some handle)).toList.countP _
      omega
    · show other ∈ roots.free ↔ (roots.slots.setIfInBounds id.index (some handle))[other]? = _
      rw [Array.getElem?_setIfInBounds, accounted.free_iff]
      by_cases same : id.index = other
      · subst same
        simp [known]
      · rw [if_neg same]
  · exact accounted

theorem set_eq_error {id : RootId} {handle : Handle} {stop : Stop}
    (h : (RootSet.set id handle roots).answer = .error stop) : stop = .refused .unknownRoot := by
  unfold RootSet.set at h
  split at h
  · cases h
  · exact (Except.error.inj h).symm

/-- A root that is in use is counted. -/
theorem Accounted.count_pos (accounted : roots.Accounted) {id : RootId}
    (used : (roots.get? id).isSome = true) : 0 < roots.count := by
  obtain ⟨handle, known⟩ := get?_isSome_iff.mp used
  rw [accounted.count_eq, List.countP_pos_iff]
  exact ⟨_, Array.mem_toList_iff.mpr (Array.mem_of_getElem? known), rfl⟩

theorem remove_of_used (accounted : roots.Accounted) {id : RootId}
    (used : (roots.get? id).isSome = true) :
    remove id roots = ⟨.ok true,
      { slots := roots.slots.setIfInBounds id.index none, free := id.index :: roots.free,
        count := roots.count - 1 }, []⟩ := by
  have pos : roots.count ≠ 0 := Nat.ne_of_gt (accounted.count_pos used)
  simp only [remove, if_pos used, if_neg pos]

theorem remove_of_unused {id : RootId} (unused : (roots.get? id).isSome = false) :
    remove id roots = ⟨.ok false, roots, []⟩ := by
  simp [remove, unused]

/-- Dropping a root always answers. -/
theorem Accounted.remove_answers (accounted : roots.Accounted) (id : RootId) :
    ∃ used, (RootSet.remove id roots).answer = .ok used := by
  cases used : (roots.get? id).isSome with
  | true => exact ⟨true, congrArg Outcome.answer (remove_of_used accounted used)⟩
  | false => exact ⟨false, congrArg Outcome.answer (remove_of_unused used)⟩

theorem Accounted.remove (accounted : roots.Accounted) (id : RootId) :
    (RootSet.remove id roots).state.Accounted := by
  cases used : (roots.get? id).isSome with
  | false =>
    rw [remove_of_unused used]
    exact accounted
  | true =>
    obtain ⟨handle, known⟩ := get?_isSome_iff.mp used
    have inside := (Array.getElem?_eq_some_iff.mp known).1
    have bound : id.index ∉ roots.free := by
      rw [accounted.free_iff, known]
      simp
    rw [remove_of_used accounted used]
    refine ⟨?_, List.nodup_cons.mpr ⟨bound, accounted.nodup⟩, fun other => ?_⟩
    · have count := HandleTable.countP_setIfInBounds known none Option.isSome
      have before := accounted.count_eq
      simp only [Option.isSome_none, Bool.false_eq_true, if_false, Option.isSome_some, if_true,
        Nat.add_zero] at count
      show roots.count - 1 = (roots.slots.setIfInBounds id.index none).toList.countP _
      omega
    · show other ∈ id.index :: roots.free ↔
        (roots.slots.setIfInBounds id.index none)[other]? = some none
      rw [Array.getElem?_setIfInBounds, List.mem_cons, accounted.free_iff]
      by_cases same : id.index = other
      · subst same
        simp [inside]
      · rw [if_neg same]
        simp [Ne.symm same]

end HandleHeap.RootSet
