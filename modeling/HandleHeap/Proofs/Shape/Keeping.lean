import HandleHeap.Proofs.Heap.Effects
import HandleHeap.Proofs.Pairing.Operations
import HandleHeap.Proofs.Shape.Links

/-!
# What leaves the interned shapes as they are

Making, growing and moving records, pinning them, and writing to fields, slots and elements leave the
buckets as they are, and the links of shapes too unless a link itself is written. Each change that
operations are made of is looked at once; `lawful_keeping` then says as much of every operation
that is plain.
-/

namespace HandleHeap

open HandleHeap.Action

/-! ## 1. Changes to the view -/

namespace View

variable {before after : View} {shapes : List Handle}

theorem kind?_of_resolve {handle : Handle}
    (same : after.labels.resolve handle = before.labels.resolve handle) :
    after.kind? handle = before.kind? handle :=
  congrArg (Option.map Label.kind) same

theorem link?_congr {shape : Handle} (kind : after.kind? shape = before.kind? shape)
    (bytes : after.bytes shape = before.bytes shape) : after.link? shape = before.link? shape := by
  unfold link? contents
  rw [kind, bytes]

/-- Only the kinds and bytes of records and the buckets matter. -/
theorem Interned.of_same (h : before.Interned shapes) (buckets : after.buckets = before.buckets)
    (kind : ∀ handle, after.kind? handle = before.kind? handle)
    (bytes : ∀ handle, after.bytes handle = before.bytes handle) : after.Interned shapes := by
  have links (shape : Handle) : after.link? shape = before.link? shape :=
    link?_congr (kind shape) (bytes shape)
  unfold Interned at h ⊢
  rw [buckets]
  exact h.congr links

/-- A record gets other bytes, which hold the same link if it is a shape. -/
theorem Interned.withBytes (h : before.Interned shapes) {handle : Handle} {bytes : List UInt8}
    (same : ∀ old, before.contents handle .shape = .ok old →
      Link.ofBytes bytes = Link.ofBytes old) :
    (before.withBytes handle (some bytes)).Interned shapes := by
  refine ShapeBuckets.Interned.congr h fun shape => ?_
  cases known : before.contents handle .shape with
  | ok old => exact link?_withBytes known (same old known) shape
  | error stop =>
    by_cases own : shape = handle
    · cases own
      rw [link?, link?, contents_withBytes, if_pos rfl, known]
      rfl
    · exact link?_withBytes_ne own _

end View

namespace Heap

variable {heap after : Heap} {shapes : List Handle}

/-- A record of another kind is no shape. -/
theorem not_shape {handle : Handle} {kind : RecordKind} {bytes : List UInt8}
    (known : heap.view.contents handle kind = .ok bytes) (other : kind ≠ .shape)
    (old : List UInt8) : heap.view.contents handle .shape ≠ .ok old := by
  intro shape
  have kinds := (contents_eq_ok known).1.symm.trans (contents_eq_ok shape).1
  exact other (Option.some.inj kinds)

theorem ofBytes_zeros (count : Nat) : Link.ofBytes (List.replicate count 0) = none := by
  have unmarked : ShapeField.isHashed.read (List.replicate count 0) = false := by
    rw [Field.read, window, List.drop_replicate, List.take_replicate]
    exact Scalar.decode_zeros .flag _
  rw [Link.ofBytes, unmarked]
  rfl

theorem ofBytes_newShape (proto : Handle) (propSize : UInt32) :
    Link.ofBytes (newShape proto propSize) = none := by
  rw [Link.ofBytes, isHashed_newShape]
  rfl

/-- Asking the arena for a block. -/
theorem Sound.interned_request (sound : heap.Sound) (interned : heap.view.Interned shapes)
    (size : Nat) :
    (onArena (fun _ e => e) (Arena.allocate size) heap).state.view.Interned shapes ∧
      ∀ block, (onArena (fun _ e => e) (Arena.allocate size) heap).answer = .ok block →
        (onArena (fun _ e => e) (Arena.allocate size) heap).state.Sound := by
  have asked := sound.view_asked size
  refine ⟨?_, fun block answer => ?_⟩
  · show (view { heap with arena := (Arena.allocate size heap.arena).state }).Interned shapes
    rw [asked]
    exact interned.of_same rfl (fun _ => rfl) fun _ => rfl
  · cases given : (Arena.allocate size heap.arena).answer with
    | ok block => exact (sound.given given rfl).1
    | error e =>
      have refused : ((Arena.allocate size heap.arena).answer.mapError _) = .ok block := answer
      rw [given] at refused
      cases refused

/-- The handle of a new record had no link before. -/
theorem Made.unknown {kind : RecordKind} {size : Nat} {bytes : List UInt8} {handle : Handle}
    (made : Made kind size bytes heap after (.ok handle)) : heap.view.link? handle = none := by
  have dead : heap.view.kind? handle = none :=
    congrArg (Option.map Label.kind) made.resolve_of_ok.1
  rw [View.link?, View.contents, dead]

/-- A record is made that is not marked as an interned shape. -/
theorem Made.interned {kind : RecordKind} {size : Nat} {bytes : List UInt8}
    {answer : Except Stop Handle} (made : Made kind size bytes heap after answer)
    (interned : heap.view.Interned shapes) (unmarked : Link.ofBytes bytes = none) :
    after.view.Interned shapes := by
  cases answer with
  | error stop =>
    have same := made.same_of_error
    refine interned.of_same made.buckets (fun handle => ?_) fun handle => (same handle).2
    exact View.kind?_of_resolve (same handle).1
  | ok handle =>
    have same := made.resolve_of_ok.2.2
    have links (shape : Handle) : after.view.link? shape = heap.view.link? shape := by
      by_cases own : shape = handle
      · cases own
        rw [made.unknown, View.link?]
        cases known : after.view.contents handle .shape with
        | error stop => rfl
        | ok old =>
          rw [← (contents_eq_ok known).2, (contents_eq_ok made.contents).2]
          exact unmarked
      · exact View.link?_congr (View.kind?_of_resolve (same shape own).1) (same shape own).2
    have buckets : after.view.buckets = heap.view.buckets := made.buckets
    unfold View.Interned
    rw [buckets]
    exact ShapeBuckets.Interned.congr interned links

theorem Grown.interned {handle : Handle} {kind : RecordKind} {size : Nat}
    {answer : Except Stop Unit} (grown : Grown handle kind size heap after answer)
    (other : kind ≠ .shape) (interned : heap.view.Interned shapes) :
    after.view.Interned shapes := by
  cases grown with
  | missing none same =>
    rw [same]
    exact interned
  | refused known given view =>
    rw [view]
    exact interned.of_same rfl (fun _ => rfl) fun _ => rfl
  | grown known given view sound =>
    rw [view]
    have asked : (heap.asked size).Interned shapes :=
      interned.of_same rfl (fun _ => rfl) fun _ => rfl
    exact asked.withBytes fun old shape => absurd shape (not_shape known other old)

theorem Grown.sound {handle : Handle} {kind : RecordKind} {size : Nat}
    (grown : Grown handle kind size heap after (.ok ())) : after.Sound := by
  cases grown with
  | grown known given view sound => exact sound

theorem Relocated.sound {handle : Handle} (relocated : Relocated handle heap after (.ok ())) :
    after.Sound := by
  cases relocated with
  | moved known bytes given view sound => exact sound

theorem Relocated.buckets {handle : Handle} {answer : Except Stop Unit}
    (relocated : Relocated handle heap after answer) : after.view.buckets = heap.view.buckets := by
  cases relocated with
  | missing none same | pinned known same => rw [same]
  | refused known bytes given view | moved known bytes given view sound => rw [view]; rfl

theorem Relocated.interned {handle : Handle} {answer : Except Stop Unit}
    (relocated : Relocated handle heap after answer) (interned : heap.view.Interned shapes) :
    after.view.Interned shapes :=
  interned.of_same relocated.buckets (fun other => (relocated.rests other).kind)
    fun other => (relocated.rests other).bytes

theorem Repinned.buckets {handle : Handle} {pinned : Bool} {answer : Except Stop Unit}
    (repinned : Repinned handle pinned heap after answer) :
    after.view.buckets = heap.view.buckets := by
  cases repinned with
  | missing none same => rw [same]
  | repinned known view => rw [view]

theorem Repinned.interned {handle : Handle} {pinned : Bool} {answer : Except Stop Unit}
    (repinned : Repinned handle pinned heap after answer) (interned : heap.view.Interned shapes) :
    after.view.Interned shapes :=
  interned.of_same repinned.buckets (fun other => (repinned.rests other).kind)
    fun other => (repinned.rests other).bytes

/-- A record that is in no bucket is ended. -/
theorem interned_end {handle : Handle} (interned : heap.view.Interned shapes)
    (unlinked : heap.view.link? handle = none) :
    (onTable (HandleTable.invalidate handle) heap).state.view.Interned shapes := by
  rw [(end_labels heap handle).2]
  refine ShapeBuckets.Interned.congr interned fun shape => ?_
  have resolve := HandleTable.resolve_invalidate handle heap.labels shape
  by_cases own : shape = handle
  · rw [own, if_pos rfl] at resolve
    rw [own, unlinked, View.link?, View.contents, View.kind?]
    simp only [View.withBytes, resolve]
    rfl
  · rw [View.link?_withBytes_ne own]
    exact View.link?_congr (View.kind?_of_resolve (resolve.trans (if_neg own))) rfl

/-- A record is edited: a shape keeps its link, and the bytes of other records hold none. -/
theorem Edits.interned {handle : Handle} {kind : RecordKind}
    {edit : List UInt8 → Except Stop (List UInt8)} {action : HeapAction Unit}
    (edits : Edits handle kind edit action) (sound : heap.Sound)
    (interned : heap.view.Interned shapes)
    (same : ∀ {old bytes}, heap.view.contents handle .shape = .ok old → kind = .shape →
      edit old = .ok bytes → Link.ofBytes bytes = Link.ofBytes old) :
    (action heap).state.view.Interned shapes ∧
      ((action heap).answer = .ok () → (action heap).state.Sound) := by
  cases edited : heap.view.contents handle kind >>= edit with
  | error stop =>
    obtain ⟨events, run⟩ := edits.refused sound.toSeparated edited
    rw [run]
    exact ⟨interned, fun ok => by cases ok⟩
  | ok bytes =>
    obtain ⟨after, run, rewrites⟩ := edits.done sound.toSeparated edited
    rw [run]
    refine ⟨?_, fun _ => rewrites.sound sound⟩
    show after.view.Interned shapes
    rw [rewrites.view]
    refine interned.withBytes fun old shape => ?_
    by_cases own : kind = .shape
    · cases own
      rw [shape] at edited
      exact same shape rfl edited
    · cases known : heap.view.contents handle kind with
      | ok bytes' => exact absurd shape (not_shape known own old)
      | error stop =>
        rw [known] at edited
        cases edited

end Heap

/-! ## 2. Plain operations -/

namespace Pairing

/-- A heap and itself, as long as the interned shapes are those of a list. -/
def keeping (shapes : List Handle) : Pairing where
  rename := id
  related a b := a = b ∧ a.view.Interned shapes ∧ a.handles.Accounted
  lockstep := True
  readable _ := True
  writable {layout _} _ := layout = .object
  spare handle := handle ∉ shapes

variable {shapes : List Handle} {α : Type} {same : α → α → Prop}

/-- What is seen of one heap is the same, however it is compared. -/
theorem looks_keeping {report : Heap → Report Stop α} (refl : ∀ a, same a a) :
    (keeping shapes).Looks same report report := by
  rintro heap _ - - ⟨rfl, -⟩
  cases (report heap).answer with
  | ok a => exact .ok (refl a)
  | error stop => exact .error stop

/-- An action runs alike on one heap, so only what it leaves matters. -/
theorem parallel_keeping {action : HeapAction α} (keeps : KeepsAccounts action)
    (leaves : ∀ heap : Heap, heap.Sound → heap.view.Interned shapes →
      (action heap).state.view.Interned shapes ∧
        ∀ a, (action heap).answer = .ok a → same a a ∧ (action heap).state.Sound) :
    (keeping shapes).Parallel same action action := by
  rintro heap _ sound - ⟨rfl, interned, accounted⟩
  have kept := keeps.step heap accounted
  obtain ⟨after, answered⟩ := leaves heap sound interned
  rcases run : action heap with ⟨stop | a, state, events⟩ <;> rw [run] at kept after answered
  · exact .error ⟨rfl, after, kept⟩
  · obtain ⟨alike, settled⟩ := answered a rfl
    exact .ok alike ⟨rfl, after, kept⟩ settled settled

theorem parallel_edits {handle : Handle} {kind : RecordKind}
    {edit : List UInt8 → Except Stop (List UInt8)} {action : HeapAction Unit}
    (edits : Heap.Edits handle kind edit action) (keeps : KeepsAccounts action)
    (other : kind ≠ .shape) : (keeping shapes).Parallel Eq action action :=
  parallel_keeping keeps fun _ sound interned =>
    have edited := edits.interned sound interned fun _ own => absurd own other
    ⟨edited.1, fun _ ok => ⟨rfl, edited.2 ok⟩⟩

theorem parallel_roots {β : Type} (action : Action Stop RootSet β) :
    (keeping shapes).Parallel Eq (Heap.onRoots action) (Heap.onRoots action) :=
  have touches : (Heap.onRoots action).Keeps (Heap.Touching fun _ => False) :=
    Heap.keeps_onRoots action
  parallel_keeping (Heap.keeps_onRoots action) fun _ sound interned =>
    ⟨interned.of_same rfl (fun _ => rfl) fun _ => rfl,
      fun _ answer => ⟨rfl, (sound.leaves touches).sound answer⟩⟩

theorem keeping_request (size : Nat) :
    (keeping shapes).Parallel (fun u v => (keeping shapes).lockstep → u.offset = v.offset)
      (Heap.onArena (fun _ e => e) (Arena.allocate size))
      (Heap.onArena (fun _ e => e) (Arena.allocate size)) := by
  refine parallel_keeping (Heap.keeps_request (Arena.requests_allocate size) _) ?_
  intro heap sound interned
  have requested := sound.interned_request interned size
  exact ⟨requested.1, fun block answer => ⟨fun _ => rfl, requested.2 block answer⟩⟩

/-- A record that is new is no interned shape. -/
theorem keeping_allocRecord {kind : RecordKind} {size : Nat} (allowed : 0 < size → kind.Allows size) :
    (keeping shapes).Parallel (fun u v => u = (keeping shapes).rename v ∧ (keeping shapes).spare v)
      (Heap.allocRecord kind size) (Heap.allocRecord kind size) := by
  refine parallel_keeping (Heap.keeps_allocRecord ..) fun heap sound interned => ?_
  have made := sound.allocRecord allowed
  refine ⟨made.interned interned (Heap.ofBytes_zeros _), fun handle answer => ?_⟩
  rw [answer] at made
  refine ⟨⟨rfl, fun listed => ?_⟩, made.sound⟩
  have linked := (interned.linked handle).mp listed
  rw [made.unknown] at linked
  cases linked

theorem keeping_allocShape (proto : Handle) (propSize : UInt32) :
    (keeping shapes).Parallel (fun u v => u = (keeping shapes).rename v)
      (Heap.allocShape proto propSize) (Heap.allocShape proto propSize) := by
  refine parallel_keeping (Heap.keeps_allocShape ..) fun heap sound interned => ?_
  have made := sound.allocShape proto propSize
  refine ⟨made.interned interned (Heap.ofBytes_newShape ..), fun handle answer => ⟨rfl, ?_⟩⟩
  rw [answer] at made
  exact made.sound

theorem keeping_growRecord {kind : RecordKind} {size : Nat}
    (array : kind = .propertyArray ∨ kind = .elementArray) (allowed : kind.Allows size)
    (handle : Handle) :
    (keeping shapes).Parallel Eq (Heap.growRecord handle kind size)
      (Heap.growRecord handle kind size) := by
  refine parallel_keeping (Heap.keeps_growRecord ..) fun heap sound interned => ?_
  have grown := sound.growRecord handle allowed
  refine ⟨grown.interned ?_ interned, fun _ answer => ⟨rfl, ?_⟩⟩
  · rcases array with rfl | rfl <;> decide
  · rw [answer] at grown
    exact grown.sound

theorem keeping_relocate (handle : Handle) :
    (keeping shapes).Parallel Eq (Heap.relocate handle) (Heap.relocate handle) := by
  refine parallel_keeping (Heap.keeps_relocate handle) fun heap sound interned => ?_
  have relocated := sound.relocate handle
  refine ⟨relocated.interned interned, fun _ answer => ⟨rfl, ?_⟩⟩
  rw [answer] at relocated
  exact relocated.sound

theorem keeping_setPinned (handle : Handle) (pinned : Bool) :
    (keeping shapes).Parallel Eq (Heap.setPinned handle pinned) (Heap.setPinned handle pinned) := by
  refine parallel_keeping (Heap.keeps_setPinned ..) fun heap sound interned => ?_
  have leaves := sound.leaves (Heap.touches_setPinned handle pinned)
  exact ⟨(sound.setPinned handle pinned).interned interned,
    fun _ answer => ⟨rfl, leaves.sound answer⟩⟩

/-- A record that is no interned shape may be ended. -/
theorem keeping_end {handle : Handle} (spare : (keeping shapes).spare handle) {a b : Heap}
    (related : (keeping shapes).related a b) :
    (keeping shapes).related (Heap.onTable (HandleTable.invalidate handle) a).state
      (Heap.onTable (HandleTable.invalidate handle) b).state := by
  obtain ⟨rfl, interned, accounted⟩ := related
  have unlinked : a.view.link? handle = none := by
    rw [← Option.not_isSome_iff_eq_none, ← interned.linked]
    exact spare
  have keeps : KeepsAccounts (Heap.onTable (HandleTable.invalidate handle)) :=
    Heap.keeps_end handle
  exact ⟨rfl, Heap.interned_end interned unlinked, keeps.step a accounted⟩

theorem lawful_keeping (shapes : List Handle) : (keeping shapes).Lawful where
  null := rfl
  isNull _ := rfl
  accounted := by
    rintro a _ ⟨rfl, -, accounted⟩
    exact ⟨accounted, accounted⟩
  objects _ := ⟨trivial, rfl⟩
  proto := trivial
  propSize := trivial
  isLive _ := looks_keeping fun _ => rfl
  kind _ := looks_keeping fun _ => rfl
  isPinned _ := looks_keeping fun _ => rfl
  locate _ _ := looks_keeping fun _ => trivial
  tryGet {_ scalar _} _ _ := looks_keeping fun v => (scalar.map_id v).symm
  set {layout scalar field} writable handle value := by
    rw [show scalar.map (keeping shapes).rename value = value from scalar.map_id value]
    cases writable
    exact parallel_edits (Heap.edits_set handle field value) (Heap.keeps_set ..) (by decide)
  capacity _ _ _ := looks_keeping fun _ => rfl
  trySlot _ _ := looks_keeping fun v => v.map_id.symm
  setSlot storage index slot := by
    rw [show slot.map (keeping shapes).rename = slot from slot.map_id]
    exact parallel_edits (Heap.edits_setSlot storage index slot) (Heap.keeps_setSlot ..) (by decide)
  cell _ _ := looks_keeping fun v => v.map_id.symm
  setCell values index value := by
    rw [show value.map (keeping shapes).rename = value from value.map_id]
    exact parallel_edits (Heap.edits_setCell values index value) (Heap.keeps_setCell ..) (by decide)
  request := keeping_request
  allocRecord _ := keeping_allocRecord
  allocShape := keeping_allocShape
  growRecord := keeping_growRecord
  relocate := keeping_relocate
  setPinned := keeping_setPinned
  ends spare _ _ := keeping_end spare
  getRoot _ := looks_keeping fun v => by simp [keeping]
  roots := looks_keeping fun v => by simp [keeping]
  rootAdded handle := parallel_roots _
  rootSet id handle := parallel_roots _
  rootRemoved id := parallel_roots _

end Pairing

/-- A plain operation leaves the interned shapes as they are. -/
theorem Heap.Sound.interned_plain {heap : Heap} {shapes : List Handle} (sound : heap.Sound)
    (accounted : heap.handles.Accounted) (interned : heap.view.Interned shapes)
    {operation : Operation Handle} (plain : (Pairing.keeping shapes).Plain operation) :
    (operation.perform heap).state.view.Interned shapes := by
  have agree := (Pairing.lawful_keeping shapes).perform Function.injective_id plain heap heap sound
    sound ⟨rfl, interned, accounted⟩
  obtain ⟨same, after, -⟩ := agree.related trivial
  rwa [same] at after

end HandleHeap
