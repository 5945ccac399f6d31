import HandleHeap.Proofs.Heap.Inert
import HandleHeap.Proofs.Heap.Invariants
import HandleHeap.Proofs.Root.Mapping

/-!
# Roots over whole runs

What the roots of a heap are can be told from what its operations answered: an id that `addRoot`
answers is bound, a successful `setRoot` points it elsewhere, and `removeRoot`, `reset` and
`teardown` drop it (`Operation.rerooted`).

* `represents_perform`: each operation changes the root set as it is told.
* `bound_run`: a handle that is bound was live when it was stored.
* `rooted_of_run`: after every run the roots are those that were told.
-/

namespace HandleHeap

open HandleHeap.Action

/-! ## 1. What is told of the roots -/

/-- What becomes of the roots by an operation that answered. -/
def RootMap.tell (map : RootMap) :
    Operation Handle → Except Stop (Answer Handle) → RootMap
  | .addRoot handle, .ok (.root id) => map.bind id handle
  | .setRoot id handle, .ok _ => map.point id (some handle)
  | .removeRoot id, .ok _ => map.drop id
  | .reset, _ => .empty
  | .teardown, _ => .empty
  | _, _ => map

namespace RootMap

variable {map : RootMap} {id root : RootId} {handle target : Handle}
  {answer : Except Stop (Answer Handle)}

theorem bound_of_point {stored : Option Handle}
    (bound : (map.point root stored).bound id = some handle) :
    map.bound id = some handle ∨ id = root ∧ stored = some handle := by
  by_cases own : id = root
  · exact .inr ⟨own, (if_pos own).symm.trans bound⟩
  · exact .inl ((if_neg own).symm.trans bound)

theorem bound_of_tell_add (bound : (map.tell (.addRoot target) answer).bound id = some handle) :
    map.bound id = some handle ∨ target = handle := by
  rcases answer with stop | answer
  · exact .inl bound
  · cases answer with
    | root root => exact (bound_of_point bound).imp_right fun own => Option.some.inj own.2
    | _ => exact .inl bound

theorem bound_of_tell_set
    (bound : (map.tell (.setRoot root target) answer).bound id = some handle) :
    map.bound id = some handle ∨ id = root ∧ target = handle := by
  rcases answer with stop | answer
  · exact .inl bound
  · exact (bound_of_point bound).imp_right fun own => ⟨own.1, Option.some.inj own.2⟩

theorem bound_of_tell_remove (bound : (map.tell (.removeRoot root) answer).bound id = some handle) :
    map.bound id = some handle := by
  rcases answer with stop | answer
  · exact bound
  · change (map.drop root).bound id = some handle at bound
    unfold drop at bound
    split at bound
    · rcases bound_of_point bound with before | ⟨-, none⟩
      · exact before
      · cases none
    · exact bound

end RootMap

/-- What is told of the roots after an operation, from what it answered. -/
def Operation.rerooted (heap : Heap) (told : RootMap) (operation : Operation Handle) : RootMap :=
  told.tell operation (operation.perform heap).answer

instance : Chained fun before after : Heap => after.roots = before.roots where
  refl _ := rfl
  trans first second := second.trans first

instance : KeptByArena fun before after : Heap => after.roots = before.roots where
  request _ _ := rfl
  content _ _ _ _ := rfl

instance : KeptByTable fun before after : Heap => after.roots = before.roots where
  handles _ _ := rfl

instance : KeptByBuckets fun before after : Heap => after.roots = before.roots where
  buckets _ _ _ := rfl

/-- An operation that is not about the roots leaves them alone. -/
theorem Operation.roots_perform (heap : Heap) {operation : Operation Handle}
    (same : operation.changesRoots = false) :
    (operation.perform heap).state.roots = heap.roots := by
  have onward : operation.rewinds = false := by
    cases operation <;> first | rfl | cases same
  have keeps : operation.perform.Keeps fun before after : Heap => after.roots = before.roots :=
    keeps_perform_of operation onward (fun _ => inferInstance) (fun _ => inferInstance)
      fun changed => absurd (same.symm.trans changed) Bool.false_ne_true
  exact keeps.step heap

theorem Operation.rerooted_of_same (heap : Heap) (told : RootMap) {operation : Operation Handle}
    (same : operation.changesRoots = false) : operation.rerooted heap told = told := by
  cases operation <;> first | rfl | cases same

namespace Heap

variable {heap : Heap} {handle : Handle} {id : RootId}

/-! ## 2. Adding, changing and dropping a root -/

theorem onRoots_apply {α : Type} {action : Action Stop RootSet α} {answer : Except Stop α}
    {roots : RootSet} {events : List Event} (run : action heap.roots = ⟨answer, roots, events⟩) :
    onRoots action heap = ⟨answer, { heap with roots }, events⟩ := by
  simp only [onRoots, run]

theorem addRoot_of_live (live : heap.isLive handle = true) {after : RootSet}
    (run : RootSet.add handle heap.roots = ⟨.ok id, after, []⟩) :
    addRoot handle heap = ⟨.ok id, { heap with roots := after }, [.rootAdded id handle]⟩ := by
  rw [show addRoot handle heap = _ from look_bind_of_pure _ rfl, live]
  exact bind_apply_of_ok (onRoots_apply run)

theorem addRoot_of_full (live : heap.isLive handle = true) {stop : Stop}
    (run : RootSet.add handle heap.roots = ⟨.error stop, heap.roots, []⟩) :
    addRoot handle heap = ⟨.error stop, heap, []⟩ := by
  rw [show addRoot handle heap = _ from look_bind_of_pure _ rfl, live]
  exact bind_apply_of_error (onRoots_apply run)

theorem setRoot_of_live (live : heap.isLive handle = true) (id : RootId) :
    setRoot id handle heap = onRoots (RootSet.set id handle) heap := by
  rw [show setRoot id handle heap = _ from look_bind_of_pure _ rfl, live]
  rfl

/-! ## 3. One operation -/

section Telling

variable {told : RootMap} (represents : heap.roots.Represents told)
include represents

/-- An operation that is refused leaves the roots, and nothing is told of them. -/
theorem represents_of_refused {operation : Operation Handle} {error : HeapError}
    {events : List Event}
    (run : operation.perform heap = ⟨.error (.refused error), heap, events⟩)
    (silent : told.tell operation (.error (.refused error)) = told) :
    (operation.perform heap).state.roots.Represents (operation.rerooted heap told) := by
  rw [Operation.rerooted, run, silent]
  exact represents

theorem represents_addRoot (handle : Handle) :
    ((Operation.addRoot handle).perform heap).state.roots.Represents
      ((Operation.addRoot handle).rerooted heap told) := by
  cases live : heap.isLive handle with
  | false => exact represents_of_refused represents (bind_apply_of_error (addRoot_of_dead live)) rfl
  | true =>
    rcases represents.add_cases handle with ⟨id, after, added, -, -, kept⟩ | ⟨full, -, -⟩
    · have run : (Operation.addRoot handle).perform heap = _ :=
        bind_apply_of_ok (addRoot_of_live live added)
      rw [Operation.rerooted, run]
      exact kept
    · exact represents_of_refused represents (bind_apply_of_error (addRoot_of_full live full)) rfl

theorem represents_setRoot (id : RootId) (handle : Handle) :
    ((Operation.setRoot id handle).perform heap).state.roots.Represents
      ((Operation.setRoot id handle).rerooted heap told) := by
  cases live : heap.isLive handle with
  | false =>
    exact represents_of_refused represents (bind_apply_of_error (setRoot_of_dead live id)) rfl
  | true =>
    have first := setRoot_of_live live id
    cases bound : (told.bound id).isSome with
    | true =>
      obtain ⟨after, changed, kept⟩ := represents.set_of_bound bound handle
      have run : (Operation.setRoot id handle).perform heap = _ :=
        bind_apply_of_ok (first.trans (onRoots_apply changed))
      rw [Operation.rerooted, run]
      exact kept
    | false =>
      have refused := represents.set_of_unbound bound handle
      exact represents_of_refused represents
        (bind_apply_of_error (first.trans (onRoots_apply refused))) rfl

theorem represents_removeRoot (id : RootId) :
    ((Operation.removeRoot id).perform heap).state.roots.Represents
      ((Operation.removeRoot id).rerooted heap told) := by
  obtain ⟨after, removed, kept⟩ := represents.exists_remove id
  have run : (Operation.removeRoot id).perform heap = _ :=
    bind_apply_of_ok (onRoots_apply removed)
  rw [Operation.rerooted, run]
  exact kept

theorem represents_perform (operation : Operation Handle) :
    (operation.perform heap).state.roots.Represents (operation.rerooted heap told) := by
  cases changes : operation.changesRoots with
  | false =>
    rw [Operation.roots_perform heap changes, Operation.rerooted_of_same heap told changes]
    exact represents
  | true =>
    cases operation with
    | addRoot handle => exact represents_addRoot represents handle
    | setRoot id handle => exact represents_setRoot represents id handle
    | removeRoot id => exact represents_removeRoot represents id
    | reset => exact RootSet.represents_empty
    | teardown =>
      rw [state_teardown]
      exact RootSet.represents_empty
    | _ => cases changes

end Telling

theorem represents_run {told : RootMap} (represents : heap.roots.Represents told)
    (operations : List (Operation Handle)) :
    (heap.run operations).roots.Represents (follow Operation.rerooted heap told operations) := by
  induction operations generalizing heap told with
  | nil => exact represents
  | cons operation rest ih => exact ih (represents_perform represents operation)

/-! ## 4. What is bound was live -/

/-- An operation is there to store a handle as the root of an id, and the handle is live. -/
def Stores (heap : Heap) (id : RootId) (handle : Handle) (operation : Operation Handle) : Prop :=
  (operation = .addRoot handle ∨ operation = .setRoot id handle) ∧ heap.isLive handle = true

/-- A handle that is bound after an operation was bound before, or was live and stored by it. -/
theorem bound_perform {told : RootMap} {operation : Operation Handle}
    (bound : (operation.rerooted heap told).bound id = some handle) :
    told.bound id = some handle ∨ heap.Stores id handle operation := by
  cases operation with
  | addRoot target =>
    cases live : heap.isLive target with
    | false =>
      have run : (Operation.addRoot target).perform heap = _ :=
        bind_apply_of_error (addRoot_of_dead live)
      rw [Operation.rerooted, run] at bound
      exact .inl bound
    | true =>
      rcases RootMap.bound_of_tell_add bound with before | rfl
      · exact .inl before
      · exact .inr ⟨.inl rfl, live⟩
  | setRoot root target =>
    cases live : heap.isLive target with
    | false =>
      have run : (Operation.setRoot root target).perform heap = _ :=
        bind_apply_of_error (setRoot_of_dead live root)
      rw [Operation.rerooted, run] at bound
      exact .inl bound
    | true =>
      rcases RootMap.bound_of_tell_set bound with before | ⟨rfl, rfl⟩
      · exact .inl before
      · exact .inr ⟨.inr rfl, live⟩
  | removeRoot root => exact .inl (RootMap.bound_of_tell_remove bound)
  | reset => cases bound
  | teardown => cases bound
  | _ => exact .inl bound

theorem bound_run {told : RootMap} (operations : List (Operation Handle))
    (bound : (follow Operation.rerooted heap told operations).bound id = some handle) :
    told.bound id = some handle ∨ ∃ past operation later,
      operations = past ++ operation :: later ∧ (heap.run past).Stores id handle operation := by
  induction operations generalizing heap told with
  | nil => exact .inl bound
  | cons operation rest ih =>
    rcases ih bound with before | ⟨past, storing, later, rfl, stores⟩
    · rcases bound_perform before with before | stores
      · exact .inl before
      · exact .inr ⟨[], operation, rest, rfl, stores⟩
    · exact .inr ⟨operation :: past, storing, later, rfl, stores⟩

/-! ## 5. Result -/

/-- The roots of a heap are those of a map. -/
structure Rooted (heap : Heap) (map : RootMap) : Prop where
  get : ∀ id, heap.getRoot id = map.bound id
  /-- Only a live record becomes a root. Its id is not bound, and is the one to be bound next. -/
  add : ∀ handle, heap.isLive handle = true →
    (∃ id, (addRoot handle heap).answer = .ok id ∧ map.bound id = none ∧ map.Offers id) ∨
      addRoot handle heap = ⟨.error (.refused .handleTableFull), heap, []⟩ ∧ map.dropped = [] ∧
        ∀ id : RootId, id.index < 0x100000000 → map.used id = true
  add_dead : ∀ handle, heap.isLive handle = false →
    addRoot handle heap = ⟨.error (.refused .invalidHandle), heap, []⟩
  set : ∀ id handle, (setRoot id handle heap).answer =
    if heap.isLive handle = false then .error (.refused .invalidHandle)
    else if map.bound id = none then .error (.refused .unknownRoot)
    else .ok ()
  remove : ∀ id, (removeRoot id heap).answer = .ok (map.bound id).isSome
  listed : ∀ id handle, (id, handle) ∈ heap.roots.toList ↔ map.bound id = some handle
  sorted : heap.roots.toList.Pairwise fun a b => a.1.index < b.1.index
  size : heap.stats.roots = heap.roots.toList.length

theorem rooted_of_represents {map : RootMap} (represents : heap.roots.Represents map) :
    heap.Rooted map where
  get := represents.get
  add handle live := by
    rcases represents.add_cases handle with ⟨id, after, added, unbound, offers, -⟩ | ⟨full, none⟩
    · exact .inl ⟨id, congrArg Outcome.answer (addRoot_of_live live added), unbound, offers⟩
    · exact .inr ⟨addRoot_of_full live full, none⟩
  add_dead _ := addRoot_of_dead
  set id handle := by
    cases live : heap.isLive handle with
    | false => rw [setRoot_of_dead live, if_pos rfl]
    | true =>
      rw [setRoot_of_live live, if_neg Bool.noConfusion]
      cases bound : map.bound id with
      | none =>
        have unbound : (map.bound id).isSome = false := by rw [bound]; rfl
        rw [onRoots_apply (represents.set_of_unbound unbound handle), if_pos rfl]
      | some old =>
        have used : (map.bound id).isSome = true := by rw [bound]; rfl
        obtain ⟨after, changed, -⟩ := represents.set_of_bound used handle
        rw [onRoots_apply changed, if_neg (Option.some_ne_none old)]
  remove id := by
    obtain ⟨after, removed, -⟩ := represents.exists_remove id
    exact congrArg Outcome.answer (onRoots_apply removed)
  listed id handle := by
    rw [RootSet.mem_toList_iff, represents.get]
  sorted := heap.roots.sorted_toList
  size := represents.accounted.length_toList.symm

/-- After any run of operations from a new heap, the roots are those of the map that the answers of
the run told. What is bound there was live when it was stored. -/
theorem rooted_of_run {grants : Nat → Bool} {config : Config} {start : Heap}
    (made : (Heap.new grants config).answer = .ok start)
    (operations : List (Operation Handle)) :
    let map := follow Operation.rerooted start .empty operations
    (start.run operations).Rooted map ∧
      ∀ id handle, map.bound id = some handle → ∃ past operation later,
        operations = past ++ operation :: later ∧ (start.run past).Stores id handle operation := by
  intro map
  obtain ⟨-, -, -, -, roots⟩ := new_eq_ok made
  have first : start.roots.Represents .empty := roots ▸ RootSet.represents_empty
  refine ⟨rooted_of_represents (represents_run first operations), ?_⟩
  intro id handle bound
  rcases bound_run operations bound with before | stored
  · cases before
  · exact stored

/-- A host that holds on to an object and its elements, drops the object, points the root of the
elements at the object, and adds the shape. -/
def rootedSession : List (Operation Handle) :=
  smallSession ++ [.addRoot ⟨2, 0⟩, .addRoot ⟨4, 0⟩, .removeRoot ⟨0⟩, .setRoot ⟨1⟩ ⟨2, 0⟩,
    .addRoot ⟨1, 0⟩]

/-- The shape took over the id that the object had, and no other id is bound. -/
theorem rooted_small :
    let heap := newSmall.run rootedSession
    (Heap.new (fun _ => true) { arenaCapacity := 1024 }).answer = .ok newSmall ∧
      heap.getRoot ⟨0⟩ = some ⟨1, 0⟩ ∧ heap.getRoot ⟨1⟩ = some ⟨2, 0⟩ ∧
      (removeRoot ⟨2⟩ heap).answer = .ok false ∧ heap.stats.roots = heap.roots.toList.length := by
  intro heap
  obtain ⟨rooted, -⟩ := rooted_of_run new_small rootedSession
  have told : let map := follow Operation.rerooted newSmall .empty rootedSession
      map.bound ⟨0⟩ = some ⟨1, 0⟩ ∧ map.bound ⟨1⟩ = some ⟨2, 0⟩ ∧ map.bound ⟨2⟩ = none := by
    decide +kernel
  obtain ⟨first, second, third⟩ := told
  refine ⟨new_small, (rooted.get ⟨0⟩).trans first, (rooted.get ⟨1⟩).trans second, ?_, rooted.size⟩
  rw [rooted.remove, third]
  rfl

end Heap

end HandleHeap
