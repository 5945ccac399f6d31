import HandleHeap.Proofs.Heap.Taking

/-!
# What an operation may write

`Operation.Writes heap operation` names the records that an operation may change, end or move.
`leaves_perform` says that it leaves all others as they are, and the heap sound: records stay
apart, and the bump offset is beyond them unless a refused request took it around 2 ^ 64.
-/

namespace HandleHeap

open HandleHeap.Action Heap

namespace Operation

/-- The records that an operation writes. Those that it makes had dead handles before. -/
def Writes (heap : Heap) : Operation Handle → Handle → Prop
  | allocObject .. | allocShape .. | allocProperties .. | allocElements .. | internShape .. =>
    heap.Dead
  | set target .. | overwrite target .. | setSlot target .. | setSlotValue target ..
  | setSlotGetter target .. | setSlotSetter target .. | setSlotVarRef target ..
  | growProperties target .. | relocate target | pin target | unpin target | hashShape target =>
    (· = target)
  | setElement object .. => heap.HasElements object
  | pushElement object .. => fun handle => handle = object ∨ heap.HasElements object handle
  | unhashShape shape => fun handle => handle = shape ∨ heap.Precedes handle shape
  | invalidate target =>
    fun handle => handle = target ∨ (heap.IsHashed target ∧ heap.Precedes handle target)
  | reset | teardown => fun _ => True
  | _ => fun _ => False

variable {heap : Heap} {writes : Handle → Prop} {α : Type}

theorem leaves_bind_pure {β : Type} {action : HeapAction α} (h : Leaves writes heap action)
    (f : α → β) : Leaves writes heap (action >>= fun a => pure (f a)) :=
  h.bind fun _ _ _ _ sound _ => sound.leaves (keeps_pure _)

/-- What an operation that takes no block leaves. -/
theorem leaves_of_touches {action : HeapAction α} (sound : heap.Sound)
    (touches : Touches writes heap (action heap).state) : Leaves writes heap action :=
  touches.aftermath sound.below

/-- Replacing an element writes the element array. -/
theorem leaves_setElement (sound : heap.Sound) (object : Handle) (index : UInt32)
    (value : Value Handle) :
    Leaves (heap.HasElements object) heap (Heap.setElement object index value) := by
  refine Leaves.look_bind sound fun values found => ?_
  obtain ⟨count, -, rest⟩ := Report.bind_eq_ok found
  split at rest
  · cases rest
  · exact sound.leaves (touches_of_fewer (touches_setCell ..) fun same => same ▸ rest)

/-- Every operation but a rewind leaves a sound heap, and as they were the records it does not
write. -/
theorem leaves_perform (sound : heap.Sound) (operation : Operation Handle)
    (onward : operation.rewinds = false) :
    Leaves (fun handle => operation.Writes heap handle ∨ heap.Dead handle) heap
      operation.perform := by
  cases operation with
  | allocObject => exact leaves_bind_pure ((leaves_allocObject sound ..).mono .inr) _
  | allocShape => exact leaves_bind_pure ((leaves_allocShape sound ..).mono .inr) _
  | allocProperties => exact leaves_bind_pure ((leaves_allocProperties sound ..).mono .inr) _
  | allocElements => exact leaves_bind_pure ((leaves_allocElements sound ..).mono .inr) _
  | internShape => exact leaves_bind_pure ((leaves_internShape sound ..).mono .inr) _
  | reserve size =>
    exact sound.take_bind (Arena.requests_allocate size) fun _ _ taken _ _ _ =>
      taken.leaves (keeps_pure _)
  | set => exact sound.leaves (keeps_doing (touches_of_fewer (touches_set ..) .inl))
  | overwrite =>
    exact leaves_bind_pure (sound.leaves (touches_of_fewer (touches_overwrite ..) .inl)) _
  | setSlot | setSlotValue | setSlotVarRef =>
    exact sound.leaves (keeps_doing (touches_of_fewer (touches_setSlot ..) .inl))
  | setSlotGetter | setSlotSetter =>
    exact sound.leaves (keeps_doing (keeps_bind (keeps_look _) fun _ =>
      touches_of_fewer (touches_setSlot ..) .inl))
  | growProperties => exact leaves_bind_pure ((leaves_growProperties sound ..).mono .inl) _
  | setElement => exact leaves_bind_pure ((leaves_setElement sound ..).mono .inl) _
  | pushElement object value =>
    refine leaves_bind_pure ((leaves_pushElement sound object value).mono fun written => ?_) _
    rcases written with own | elements | dead
    · exact .inl (.inl own)
    · exact .inl (.inr elements)
    · exact .inr dead
  | relocate target => exact leaves_bind_pure ((leaves_relocate sound target).mono .inl) _
  | pin | unpin =>
    exact sound.leaves (keeps_doing (touches_of_fewer (touches_setPinned ..) .inl))
  | hashShape shape =>
    exact sound.leaves (keeps_doing (touches_of_fewer (touches_hashShape shape) .inl))
  | unhashShape shape =>
    have touches := touches_unhashShape sound.toSeparated shape
    exact leaves_bind_pure ((leaves_of_touches sound touches).mono .inl) _
  | invalidate target =>
    have touches := touches_invalidate sound.toSeparated target
    exact leaves_bind_pure ((leaves_of_touches sound touches).mono .inl) _
  | reset | teardown => cases onward
  | addRoot target => exact leaves_bind_pure (sound.leaves (keeps_addRoot target)) _
  | setRoot => exact sound.leaves (keeps_doing (keeps_setRoot ..))
  | removeRoot => exact leaves_bind_pure (sound.leaves (keeps_onRoots _)) _
  | chainContains => exact leaves_bind_pure (sound.leaves (keeps_chainContains ..)) _
  | _ => exact sound.leaves (keeps_looking ..)

end Operation

end HandleHeap
