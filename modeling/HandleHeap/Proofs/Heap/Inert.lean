import HandleHeap.Proofs.Handle.Accounting
import HandleHeap.Proofs.Heap.Taking

/-!
# Handles that are not live

A record that was ended cannot be reached: whatever is read, written, moved or ended through a handle
that is not live is refused, and the heap stays as it is.

* `locate_of_dead`, `tryGet_of_dead`: what is read through such a handle.
* `invalidate_of_dead`, `setPinned_of_dead`, `addRoot_of_dead`: what is done with it by operations
  that take a record of every kind.
-/

namespace HandleHeap

open HandleHeap.Action

namespace Heap

variable {heap : Heap} {handle : Handle}

/-! ## 1. Reading -/

theorem placement_of_dead (dead : heap.Dead handle) :
    heap.placement handle = ⟨.error (.refused .invalidHandle), []⟩ := by
  simp only [Heap.placement, dead_iff.mp dead]
  rfl

theorem locate_of_dead (dead : heap.Dead handle) (kind : RecordKind) :
    heap.locate handle kind = ⟨.error (.refused .invalidHandle), [.unresolved handle kind]⟩ := by
  simp only [locate, dead_iff.mp dead]
  rfl

theorem record_of_dead (dead : heap.Dead handle) (kind : RecordKind) :
    heap.record handle kind = ⟨.error (.refused .invalidHandle), [.unresolved handle kind]⟩ := by
  rw [record, locate_of_dead dead]
  rfl

theorem tryGet_of_dead {layout : Layout} {scalar : Scalar} (dead : heap.Dead handle)
    (field : Field layout scalar) : heap.tryGet handle field =
      ⟨.error (.refused .invalidHandle), [.unresolved handle layout.kind]⟩ := by
  rw [tryGet, record_of_dead dead]
  rfl

/-! ## 2. Changing -/

theorem overwrite_of_dead (dead : heap.Dead handle) (start : Nat) (source : List UInt8) :
    overwrite handle start source heap = ⟨.ok none, heap, []⟩ := by
  rw [show overwrite handle start source heap = _ from look_bind_of_pure _ rfl, dead_iff.mp dead]
  rfl

theorem addRoot_of_dead (dead : heap.Dead handle) :
    addRoot handle heap = ⟨.error (.refused .invalidHandle), heap, []⟩ := by
  rw [show addRoot handle heap = _ from look_bind_of_pure _ rfl, show heap.isLive handle = _ from dead]
  rfl

theorem setRoot_of_dead (dead : heap.Dead handle) (id : RootId) :
    setRoot id handle heap = ⟨.error (.refused .invalidHandle), heap, []⟩ := by
  rw [show setRoot id handle heap = _ from look_bind_of_pure _ rfl,
    show heap.isLive handle = _ from dead]
  rfl

theorem setPinned_of_dead (dead : heap.Dead handle) (pinned : Bool) :
    setPinned handle pinned heap = ⟨.error (.refused .invalidHandle), heap, []⟩ :=
  look_bind_of_error _ (placement_of_dead dead)

theorem invalidate_of_dead (dead : heap.Dead handle) :
    invalidate handle heap = ⟨.ok false, heap, []⟩ := by
  have unknown : heap.kind? handle = none := by
    rw [kind?, dead_iff.mp dead]
    rfl
  have ended : onTable (HandleTable.invalidate handle) heap = ⟨.ok false, heap, []⟩ :=
    onTable_apply (HandleTable.invalidate_of_dead dead)
  rw [show invalidate handle heap = _ from look_bind_of_pure _ rfl, unknown]
  exact ended

end Heap

end HandleHeap
