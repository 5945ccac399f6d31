import HandleHeap.Proofs.Root.Accounting

/-!
# A root set as a map

A root set stands for a finite map from root ids to handles, with the ids that were dropped and those
that were ever used (`RootSet.Represents`). Its slots, its free list and its count do not show.

* `mem_toList_iff`, `sorted_toList`, `length_toList`: the roots are listed once each, by id.
* `Represents.add_cases`: a root is added under the id that was dropped last, or under the first one
  that was never used.
* `Represents.set_of_bound`, `Represents.exists_remove`: changing and dropping a root.
-/

namespace HandleHeap

/-! ## 1. Maps -/

/-- The roots of a host, with what became of their ids. -/
structure RootMap where
  bound : RootId → Option Handle
  /-- The ids that were dropped and not bound since, the one that was dropped last in front. -/
  dropped : List RootId
  /-- The ids that were bound at some time. -/
  used : RootId → Bool

namespace RootMap

def empty : RootMap := ⟨fun _ => none, [], fun _ => false⟩

/-- Points an id to a handle. -/
def point (map : RootMap) (id : RootId) (handle : Option Handle) : RootMap :=
  { map with bound := fun other => if other = id then handle else map.bound other }

/-- Binds an id that is not bound. -/
def bind (map : RootMap) (id : RootId) (handle : Handle) : RootMap :=
  { map.point id (some handle) with
    dropped := map.dropped.erase id
    used := fun other => other = id || map.used other }

/-- Drops an id, if it is bound. -/
def drop (map : RootMap) (id : RootId) : RootMap :=
  if (map.bound id).isSome then { map.point id none with dropped := id :: map.dropped } else map

/-- The id to be bound next is the one that was dropped last, or if there is none, the first one that
was never used. -/
def Offers (map : RootMap) (id : RootId) : Prop :=
  match map.dropped with
  | last :: _ => id = last
  | [] => map.used id = false ∧ ∀ other : RootId, other.index < id.index → map.used other = true

end RootMap

namespace RootSet

variable {roots : RootSet}

/-! ## 2. The slots -/

theorem get?_of_slots {after : RootSet} {index : Nat} {slot : Option Handle}
    (inside : index < roots.slots.size) (slots : after.slots = roots.slots.setIfInBounds index slot)
    (id : RootId) : after.get? id = if id = ⟨index⟩ then slot else roots.get? id := by
  rw [get?, get?, slots]
  by_cases own : id = ⟨index⟩
  · subst own
    rw [if_pos rfl, Array.getElem?_setIfInBounds_self_of_lt inside]
    rfl
  · have apart : index ≠ id.index := fun same => own (by rw [same])
    rw [if_neg own, Array.getElem?_setIfInBounds_ne apart]

theorem get?_extended (roots : RootSet) (id : RootId) : roots.extended.get? id = roots.get? id := by
  rw [get?, get?, extended, Array.getElem?_push]
  split
  · next last =>
    rw [Array.getElem?_eq_none (Nat.le_of_eq last.symm)]
    rfl
  · rfl

theorem inside_of_get? {id : RootId} (used : (roots.get? id).isSome = true) :
    id.index < roots.slots.size := by
  obtain ⟨handle, known⟩ := get?_isSome_iff.mp used
  exact (Array.getElem?_eq_some_iff.mp known).1

/-! ## 3. The list of the roots -/

theorem mem_toList_iff {id : RootId} {handle : Handle} :
    (id, handle) ∈ roots.toList ↔ roots.get? id = some handle := by
  rw [toList, List.mem_filterMap, get?, Option.join_eq_some_iff]
  constructor
  · rintro ⟨⟨slot, index⟩, member, found⟩
    rw [List.mem_zipIdx_iff_getElem?, Array.getElem?_toList] at member
    cases slot with
    | none => cases found
    | some stored =>
      cases found
      exact member
  · intro known
    refine ⟨(some handle, id.index), ?_, rfl⟩
    rw [List.mem_zipIdx_iff_getElem?, Array.getElem?_toList]
    exact known

theorem sorted_toList (roots : RootSet) :
    roots.toList.Pairwise fun a b => a.1.index < b.1.index := by
  have positions : (roots.slots.toList.zipIdx.map Prod.snd).Pairwise (· < ·) := by
    rw [List.zipIdx_map_snd]
    exact List.pairwise_lt_range'
  rw [toList, List.pairwise_filterMap]
  refine (List.pairwise_map.mp positions).imp ?_
  rintro ⟨slot, index⟩ ⟨slot', index'⟩ before entry found entry' found'
  obtain ⟨handle, -, rfl⟩ := Option.map_eq_some_iff.mp found
  obtain ⟨handle', -, rfl⟩ := Option.map_eq_some_iff.mp found'
  exact before

theorem Accounted.length_toList (accounted : roots.Accounted) : roots.toList.length = roots.count := by
  rw [accounted.count_eq, toList, List.length_filterMap_eq_countP]
  have slots := List.zipIdx_map_fst 0 roots.slots.toList
  nth_rewrite 2 [← slots]
  rw [List.countP_map]
  refine List.countP_congr fun entry _ => ?_
  simp

/-! ## 4. Representing a map -/

/-- A root set stands for a map. -/
structure Represents (roots : RootSet) (map : RootMap) : Prop where
  accounted : roots.Accounted
  get : ∀ id, roots.get? id = map.bound id
  free : roots.free = map.dropped.map RootId.index
  used : ∀ id, map.used id = true ↔ id.index < roots.slots.size

theorem represents_empty : Represents .empty .empty :=
  ⟨accounted_empty, fun _ => rfl, rfl, fun _ => by simp [RootMap.empty, empty]⟩

/-- The first free slot is bound. It may be one that the set was just extended by. -/
theorem exists_add {map : RootMap} (accounted : roots.Accounted)
    (get : ∀ id, roots.get? id = map.bound id) {id : RootId}
    (free : roots.free = id.index :: (map.dropped.erase id).map RootId.index)
    (used : ∀ other : RootId,
      (other = id || map.used other) = true ↔ other.index < roots.slots.size)
    (handle : Handle) :
    map.bound id = none ∧
      ∃ after, add handle roots = ⟨.ok id, after, []⟩ ∧ after.Represents (map.bind id handle) := by
  have vacant := (accounted.free_iff id.index).mp (free ▸ List.mem_cons_self)
  have inside : id.index < roots.slots.size := (Array.getElem?_eq_some_iff.mp vacant).1
  have run := add_of_free accounted free handle
  have kept := accounted.add_free free handle
  rw [run] at kept
  refine ⟨?_, _, run, kept, ?_, rfl, ?_⟩
  · rw [← get, get?, vacant]
    rfl
  · intro other
    rw [get?_of_slots inside rfl, get]
    rfl
  · intro other
    refine (used other).trans ?_
    show _ ↔ _ < (roots.slots.setIfInBounds id.index (some handle)).size
    rw [Array.size_setIfInBounds]

/-- Adding a root binds the id to be bound next, or is refused when no id is left. -/
theorem Represents.add_cases {map : RootMap} (represents : roots.Represents map) (handle : Handle) :
    (∃ id after, add handle roots = ⟨.ok id, after, []⟩ ∧ map.bound id = none ∧ map.Offers id ∧
      after.Represents (map.bind id handle)) ∨
    add handle roots = ⟨.error (.refused .handleTableFull), roots, []⟩ ∧ map.dropped = [] ∧
      ∀ id : RootId, id.index < 0x100000000 → map.used id = true := by
  obtain ⟨accounted, get, free, used⟩ := represents
  cases dropped : map.dropped with
  | cons id rest =>
    rw [dropped, List.map_cons] at free
    have vacant := (accounted.free_iff id.index).mp (free ▸ List.mem_cons_self)
    have inside : id.index < roots.slots.size := (Array.getElem?_eq_some_iff.mp vacant).1
    have taken (other : RootId) :
        (other = id || map.used other) = true ↔ other.index < roots.slots.size := by
      rw [Bool.or_eq_true, decide_eq_true_eq, used]
      refine or_iff_right_of_imp ?_
      rintro rfl
      exact inside
    rw [← List.erase_cons_head id rest, ← dropped] at free
    obtain ⟨unbound, after, run, kept⟩ := exists_add accounted get free taken handle
    exact .inl ⟨id, after, run, unbound, by rw [RootMap.Offers, dropped], kept⟩
  | nil =>
    rw [dropped] at free
    by_cases room : roots.slots.size < 0x100000000
    · rw [add_of_room free room]
      have taken (other : RootId) : (other = ⟨roots.slots.size⟩ || map.used other) = true ↔
          other.index < roots.extended.slots.size := by
        have size : roots.extended.slots.size = roots.slots.size + 1 := Array.size_push _
        rw [Bool.or_eq_true, decide_eq_true_eq, used, size, Nat.lt_succ_iff_lt_or_eq, or_comm]
        exact or_congr_right ⟨congrArg RootId.index, fun same => by rw [← same]⟩
      have same (id : RootId) : roots.extended.get? id = map.bound id :=
        (get?_extended roots id).trans (get id)
      obtain ⟨unbound, after, run, kept⟩ :=
        exists_add (accounted.extended free) same (by rw [dropped]; rfl) taken handle
      refine .inl ⟨_, after, run, unbound, ?_, kept⟩
      rw [RootMap.Offers, dropped]
      refine ⟨?_, fun other before => (used other).mpr before⟩
      rw [Bool.eq_false_iff, Ne, used]
      exact Nat.lt_irrefl _
    · refine .inr ⟨add_of_full free room handle, rfl, fun id small => ?_⟩
      exact (used id).mpr (Nat.lt_of_lt_of_le small (Nat.le_of_not_lt room))

theorem Represents.set_of_bound {map : RootMap} (represents : roots.Represents map) {id : RootId}
    (bound : (map.bound id).isSome = true) (handle : Handle) :
    ∃ after, set id handle roots = ⟨.ok (), after, []⟩ ∧
      after.Represents (map.point id (some handle)) := by
  have known : (roots.get? id).isSome = true := by rw [represents.get, bound]
  have inside := inside_of_get? known
  have kept := represents.accounted.set id handle
  have run : set id handle roots = ⟨.ok (),
      { roots with slots := roots.slots.setIfInBounds id.index (some handle) }, []⟩ := by
    simp only [set, if_pos known]
  rw [run] at kept
  refine ⟨_, run, kept, ?_, represents.free, ?_⟩
  · intro other
    rw [get?_of_slots inside rfl, represents.get]
    rfl
  · intro other
    rw [Array.size_setIfInBounds]
    exact represents.used other

theorem Represents.set_of_unbound {map : RootMap} (represents : roots.Represents map) {id : RootId}
    (unbound : (map.bound id).isSome = false) (handle : Handle) :
    set id handle roots = ⟨.error (.refused .unknownRoot), roots, []⟩ := by
  simp [set, represents.get, unbound]

/-- Dropping a root tells whether it was bound. -/
theorem Represents.exists_remove {map : RootMap} (represents : roots.Represents map) (id : RootId) :
    ∃ after, remove id roots = ⟨.ok (map.bound id).isSome, after, []⟩ ∧
      after.Represents (map.drop id) := by
  have kept := represents.accounted.remove id
  unfold RootMap.drop
  cases bound : (map.bound id).isSome with
  | false =>
    have unknown : (roots.get? id).isSome = false := by rw [represents.get, bound]
    exact ⟨roots, remove_of_unused unknown, by simpa using represents⟩
  | true =>
    have known : (roots.get? id).isSome = true := by rw [represents.get, bound]
    have inside := inside_of_get? known
    have run := remove_of_used represents.accounted known
    rw [run] at kept
    rw [if_pos rfl]
    refine ⟨_, run, kept, ?_, ?_, ?_⟩
    · intro other
      rw [get?_of_slots inside rfl, represents.get]
      rfl
    · show id.index :: roots.free = _
      rw [represents.free]
      rfl
    · intro other
      rw [Array.size_setIfInBounds]
      exact represents.used other

end RootSet

end HandleHeap
