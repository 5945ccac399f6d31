import HandleHeap.Proofs.Record.Renaming
import HandleHeap.Proofs.Session.Coupling
import HandleHeap.Proofs.Shape.Twins

/-!
# Sessions cannot tell what was before them

A heap that was reset differs from a new one in the generations of its indices, in the indices it has
free and in what is left in its memory. Since a hash depends on a generation, its shapes come into other
buckets as well. None of that shows:

* `renewed`: such heaps are compared by what their records hold, with the generations of handles moved
  by an offset of the index and without the hashes and links of shapes.
* `Renewed.Held.perform`: an operation answers alike on both and leaves them alike.
* `answers_of_reset`: hence a script goes alike after a reset and on a new heap, whatever was done
  before the reset. It reaches into records by named fields, and sets none that the buckets rest on.
-/

namespace HandleHeap

open HandleHeap.Action Heap

/-! ## 1. Records -/

/-- Records of a kind that hold the same but for the generations of handles. The hash of a shape is
that of its prototype. -/
def Renewed.Alike (offset : UInt32 → UInt32) : RecordKind → List UInt8 → List UInt8 → Prop
  | .object, a, b => SameFields (Handle.shift offset) .object a b
  | .shape, a, b => SameFields (Handle.shift offset) .shape a b ∧
    ShapeField.hash.read a = (ShapeField.proto.read a).shapeHash ∧
    ShapeField.hash.read b = (ShapeField.proto.read b).shapeHash
  | .propertyArray, a, b => SameCells Slot.codec (Slot.map (Handle.shift offset)) a b
  | .elementArray, a, b => SameCells Value.codec (Value.map (Handle.shift offset)) a b

namespace Renewed.Alike

variable {offset : UInt32 → UInt32} {kind : RecordKind} {a b : List UInt8}

theorem length (alike : Alike offset kind a b) : a.length = b.length := by
  cases kind with
  | object => exact SameFields.length alike
  | shape => exact alike.1.length
  | propertyArray | elementArray => exact SameCells.length alike

theorem fields {layout : Layout} (alike : Alike offset layout.kind a b) :
    SameFields (Handle.shift offset) layout a b := by
  cases layout with
  | object => exact alike
  | shape => exact alike.1

theorem zeros (fixed : offset 0 = 0) {size : Nat} (other : kind ≠ .shape)
    (allowed : kind.Allows size) :
    Alike offset kind (List.replicate size 0) (List.replicate size 0) := by
  cases kind with
  | object =>
    cases allowed
    exact SameFields.zeros (Handle.shift_null fixed)
  | shape => exact absurd rfl other
  | propertyArray | elementArray => exact SameCells.zeros rfl size

theorem newShape (fixed : offset 0 = 0) (proto : Handle) (propSize : UInt32) :
    Alike offset .shape (Heap.newShape (proto.shift offset) propSize)
      (Heap.newShape proto propSize) := by
  refine ⟨?_, by rw [hash_newShape, proto_newShape], by rw [hash_newShape, proto_newShape]⟩
  have zeros : SameFields (Handle.shift offset) .shape _ _ :=
    SameFields.zeros (Handle.shift_null fixed)
  have named := zeros.write (by simp) Field.told_proto.listed proto
  have hashed : SameFields (Handle.shift offset) .shape
      (ShapeField.hash.write (proto.shift offset).shapeHash _)
      (ShapeField.hash.write proto.shapeHash _) := named.write_apart (fun told => told.2.1) _ _
  exact hashed.write (by simp) Field.told_propSize.listed propSize

theorem fitted {size : Nat} (array : kind = .propertyArray ∨ kind = .elementArray)
    (alike : Alike offset kind a b) (allowed : kind.Allows a.length) :
    Alike offset kind (HandleHeap.fitted a size) (HandleHeap.fitted b size) := by
  rcases array with rfl | rfl
  all_goals
    obtain ⟨cells, -, -, length⟩ := allowed
    exact SameCells.fitted alike rfl length size

theorem write {layout : Layout} {scalar : Scalar} {field : Field layout scalar} (free : field.Free)
    (whole : a.length = layout.size) (alike : Alike offset layout.kind a b)
    (value : scalar.Carrier Handle) : Alike offset layout.kind
      (field.write (scalar.map (Handle.shift offset) value) a) (field.write value b) := by
  have fields := alike.fields.write whole free.listed value
  cases layout with
  | object => exact fields
  | shape =>
    obtain ⟨-, hash, hash'⟩ := alike
    obtain ⟨-, proto, apart, -⟩ := free
    have proto : ShapeField.proto.Apart field := proto.symm
    have apart : ShapeField.hash.Apart field := apart.symm
    refine ⟨fields, ?_, ?_⟩
    · rw [Field.read_write_apart _ _ apart, Field.read_write_apart _ _ proto, hash]
    · rw [Field.read_write_apart _ _ apart, Field.read_write_apart _ _ proto, hash']

theorem relinked {a' b' : List UInt8} (alike : Alike offset .shape a b) (left : SameUnlinked a a')
    (right : SameUnlinked b b')
    (marks : ShapeField.isHashed.read a' = ShapeField.isHashed.read b') :
    Alike offset .shape a' b' := by
  obtain ⟨fields, hash, hash'⟩ := alike
  have length : a'.length = b'.length := left.length.trans (fields.length.trans right.length.symm)
  refine ⟨⟨length, fun {scalar field} told => ?_⟩, ?_, ?_⟩
  · rcases Field.eq_or_apart told.listed Field.told_isHashed.listed with own | apart
    · cases own
      exact marks
    · rw [left.read told.2.2 apart, right.read told.2.2 apart]
      exact fields.read told
  · rw [left.read (by decide) (by decide), left.read (by decide) (by decide), hash]
  · rw [right.read (by decide) (by decide), right.read (by decide) (by decide), hash']

end Renewed.Alike

/-- What a cell holds that both records have. -/
theorem SameCells.read_of_cell {α : Type} {codec : Codec α} {rename : α → α} {a b : List UInt8}
    (same : SameCells codec rename a b) {index : UInt32} {start : Nat}
    (place : Heap.cell a.length index codec.size = .ok start) :
    codec.decode (window a start codec.size) = rename (codec.decode (window b start codec.size)) := by
  obtain ⟨rfl, room⟩ := cell_place place
  exact same.read room

theorem SameCells.write_of_cell {α : Type} {codec : Codec α} {rename : α → α} {a b : List UInt8}
    (same : SameCells codec rename a b) {index : UInt32} {start : Nat}
    (place : Heap.cell a.length index codec.size = .ok start) (x : α) :
    SameCells codec rename (splice a start (codec.encode (rename x)))
      (splice b start (codec.encode x)) := by
  obtain ⟨rfl, room⟩ := cell_place place
  exact same.write room x

/-! ## 2. Heaps -/

/-- Heaps with the same records but for the generations of their handles, which are used alike. -/
def renewed (offset : UInt32 → UInt32) (fixed : offset 0 = 0) : Twin where
  offset := offset
  fixed := fixed
  lockstep := True
  exact := False
  alike := Renewed.Alike offset
  configs a b := a = b
  buckets a b := a.hashed = b.hashed
  readable field := field.Told
  writable field := field.Free
  unmoved := False.elim
  length := Renewed.Alike.length
  zeros := Renewed.Alike.zeros fixed
  newShape := Renewed.Alike.newShape fixed
  fitted array alike allowed _ := Renewed.Alike.fitted array alike allowed
  read told alike := alike.fields.read told
  write free whole alike value := Renewed.Alike.write free whole alike value
  slot alike place := SameCells.read_of_cell alike place
  setSlot alike place slot := SameCells.write_of_cell alike place slot
  element alike place := SameCells.read_of_cell alike place
  setElement alike place value := SameCells.write_of_cell alike place value
  cleared _ := rfl
  objects listed := ⟨listed, listed⟩
  proto := Field.told_proto
  propSize := Field.told_propSize

namespace Renewed

variable {offset : UInt32 → UInt32} {fixed : offset 0 = 0}

theorem loose : (renewed offset fixed).Loose where
  lockstep := trivial
  counted same := same
  marks alike := alike.1.read Field.told_isHashed
  fits {a b} alike proto := by
    obtain ⟨fields, hash, hash'⟩ := alike
    have protos : ShapeField.proto.read a = (ShapeField.proto.read b).shift offset :=
      fields.read Field.told_proto
    have counts : ShapeField.propCount.read a = ShapeField.propCount.read b :=
      fields.read Field.told_propCount
    have rename : (renewed offset fixed).rename proto = proto.shift offset := rfl
    rw [hash, hash', protos, counts, rename]
    constructor
    · rintro ⟨-, same, count⟩
      have same := Handle.shift_inj.mp same
      exact ⟨congrArg Handle.shapeHash same, same, count⟩
    · rintro ⟨-, same, count⟩
      rw [same]
      exact ⟨rfl, rfl, count⟩
  relinked alike left right marks := alike.relinked left right marks

end Renewed

/-! ## 3. Operations -/

/-- An operation that reaches into records by named fields only, reads no field that tells of buckets,
and sets none that they depend on. -/
def Operation.Proper {ρ : Type} : Operation ρ → Prop
  | .get _ field | .tryGet _ field => field.Told
  | .set _ field _ => field.Free
  | .bytes .. | .overwrite .. => False
  | _ => True

theorem Operation.Proper.map {ρ ρ' : Type} {operation : Operation ρ} (proper : operation.Proper)
    (f : ρ → ρ') : (operation.map f).Proper := by
  cases operation <;> exact proper

/-- An answer without the counts that go on from one session to the next. -/
def Answer.timeless : Answer Handle → Answer Handle
  | .usage told => .usage { told with epoch := 0 }
  | .stats told => .stats { told with arenaEpoch := 0, freeHandles := 0, handleCapacity := 0 }
  | answer => answer

/-- An entry without the counts that go on from one session to the next. -/
def Entry.timeless : Entry → Entry
  | step operation answer inserted requested used =>
    step operation (answer.map Answer.timeless) inserted requested used
  | entry => entry

namespace Renewed

variable {offset : UInt32 → UInt32} {fixed : offset 0 = 0} {a b : Heap} {shapes : List Handle}

/-- The same is told of both heaps, handles being named otherwise. -/
def Same (offset : UInt32 → UInt32) (u v : Answer Handle) : Prop :=
  u.timeless = (v.map (Handle.shift offset)).timeless ∧
    u.handles = v.handles.map (Handle.shift offset)

theorem same_of_eq {u v : Answer Handle} (same : u = v.map (Handle.shift offset)) :
    Same offset u v := by
  rw [same]
  exact ⟨rfl, Answer.handles_map ..⟩

section Facts

variable (related : (renewed offset fixed).Related a.view b.view)
include related

theorem used : a.arena.used = b.arena.used := related.usage.used trivial

theorem capacity : a.arena.capacity = b.arena.capacity := related.usage.capacity

theorem available : a.arena.available = b.arena.available := by
  rw [Arena.available, Arena.available, used related, capacity related]

theorem same_usage : Same offset (.usage a.arena.usage) (.usage b.arena.usage) := by
  have initialized : a.arena.initialized = b.arena.initialized := related.usage.initialized
  refine ⟨?_, rfl⟩
  simp only [Answer.map, Answer.timeless, Arena.usage, used related, capacity related,
    available related, initialized]

theorem same_stats : Same offset (.stats a.stats) (.stats b.stats) := by
  have hashed : a.buckets.hashed = b.buckets.hashed := related.buckets
  refine ⟨?_, rfl⟩
  rw [related.stats, used related, available related, hashed]
  rfl

end Facts

/-- An operation answers alike on both heaps. -/
theorem ends_perform (h : (renewed offset fixed).Abreast shapes a b) {operation : Operation Handle}
    (proper : operation.Proper) :
    (renewed offset fixed).Ends (Same offset) ((operation.map (Handle.shift offset)).perform a)
      (operation.perform b) := by
  have telling (tells : (renewed offset fixed).Tells operation) :
      (renewed offset fixed).Ends (Same offset) ((operation.map (Handle.shift offset)).perform a)
        (operation.perform b) := by
    obtain ⟨answers, related⟩ := h.perform loose tells
    exact ⟨answers.mono same_of_eq, related⟩
  cases operation with
  | arenaUsage => exact ⟨.ok (same_usage h.related), h.related⟩
  | config => exact ⟨.ok (same_of_eq (congrArg Answer.config h.related.config)), h.related⟩
  | stats => exact ⟨.ok (same_stats h.related), h.related⟩
  | bytes | overwrite => exact proper.elim
  | get | tryGet | set => exact telling proper
  | _ => exact telling trivial

/-- No hash, link or mark of a shape is overwritten. -/
theorem sparesLinks (sound : a.Sound) {operation : Operation Handle} (proper : operation.Proper) :
    operation.SparesLinks a := by
  cases operation with
  | @set layout scalar target field value =>
    refine sound.sparesLinks_set target field value fun shape bytes => ?_
    cases shape
    obtain ⟨-, -, hash, next, hashed⟩ := proper
    exact ⟨Field.read_write_apart _ _ hash.symm _, Field.read_write_apart _ _ next.symm _,
      Field.read_write_apart _ _ hashed.symm _⟩
  | overwrite => exact proper.elim
  | _ => trivial

/-- What is compared of two answers, and the handles in them. -/
theorem same_answers {x y : Except Stop (Answer Handle)}
    (answers : HandleHeap.Alike (Same offset) x y) :
    x.map Answer.timeless = (y.map (Answer.map (Handle.shift offset))).map Answer.timeless ∧
      handlesOf x = (handlesOf y).map (Handle.shift offset) := by
  cases answers with
  | ok told => exact ⟨congrArg Except.ok told.1, told.2⟩
  | error stop => exact ⟨rfl, rfl⟩

/-! ## 4. Sessions -/

/-- Heaps that two sessions with the same operations come to. -/
structure Held (offset : UInt32 → UInt32) (fixed : offset 0 = 0) (r : Nat) (a : Heap) (r' : Nat)
    (b : Heap) : Prop where
  tracked : a.Tracked r
  tracked' : b.Tracked r'
  same : r = r'
  few : r < sizeLimit
  abreast : ∃ shapes, (renewed offset fixed).Abreast shapes a b

theorem requested_eq (r : Nat) (related : (renewed offset fixed).Related a.view b.view)
    {operation : Operation Handle}
    (after : (renewed offset fixed).Related
      ((operation.map (Handle.shift offset)).perform a).state.view (operation.perform b).state.view) :
    (operation.map (Handle.shift offset)).requested a r = operation.requested b r := by
  rw [Operation.requested, Operation.requested, Operation.rewinds_map, Heap.advance, Heap.advance,
    used related, used after]

theorem Held.perform {r r' : Nat} (held : Held offset fixed r a r' b)
    {operation : Operation Handle} (proper : operation.Proper)
    (few : operation.requested b r' < sizeLimit) :
    let operation' := operation.map (Handle.shift offset)
    (operation'.entry a r false).timeless =
        ((operation.entry b r' false).rename (Handle.shift offset)).timeless ∧
      handlesOf (operation'.perform a).answer =
        (handlesOf (operation.perform b).answer).map (Handle.shift offset) ∧
      Held offset fixed (operation'.requested a r) (operation'.perform a).state
        (operation.requested b r') (operation.perform b).state := by
  intro operation'
  obtain ⟨tracked, tracked', rfl, few', shapes, h⟩ := held
  obtain ⟨answers, related⟩ := ends_perform h proper
  have same : operation'.requested a r = operation.requested b r :=
    requested_eq r h.related related
  have few₁ : operation'.requested a r < sizeLimit := same ▸ few
  have listed : operation'.relink a (shapes.map (Handle.shift offset)) =
      (operation.relink b shapes).map (Handle.shift offset) := h.relink loose operation
  have interned : (operation'.perform a).state.view.Interned _ := interned_perform tracked few'
    h.accounted h.interned (sparesLinks h.sound (proper.map _))
  have interned' := interned_perform tracked' few' h.accounted' h.interned'
    (sparesLinks h.sound' proper)
  rw [show shapes.map (renewed offset fixed).rename = shapes.map (Handle.shift offset) from rfl,
    listed] at interned
  have tracked₁ := tracked.perform operation'
  have tracked₁' := tracked'.perform operation
  obtain ⟨told, handles⟩ := same_answers answers
  refine ⟨?_, handles, tracked₁, tracked₁', same, few₁, _, (tracked₁.sound few₁).1,
    (tracked₁'.sound few).1, related, interned, interned'⟩
  simp only [Operation.entry, Entry.rename, Entry.timeless, same]
  rw [used related]
  exact congrArg (Entry.step operation' · false _ _) told

end Renewed

/-- Requests have not led around 2 ^ 64. -/
def Entry.Counted : Entry → Prop
  | step _ _ _ requested _ => requested < sizeLimit
  | _ => True

instance : DecidablePred Entry.Counted
  | .step _ _ _ requested _ => inferInstanceAs (Decidable (requested < sizeLimit))
  | .visit .. | .walked _ => .isTrue trivial

namespace Renewed

variable {offset : UInt32 → UInt32} {fixed : offset 0 = 0} {a b : Heap}

/-- Sessions on heaps that differ in what was before them. -/
def coupling (offset : UInt32 → UInt32) (fixed : offset 0 = 0) : Coupling where
  rename := Handle.shift offset
  null := Handle.shift_null fixed
  isNull _ := rfl
  Seen := Entry
  seen := Entry.timeless
  seen' entry := (entry.rename (Handle.shift offset)).timeless
  spent _ := False
  spent' entry := ¬ entry.Counted
  held := Held offset fixed
  allowed := Operation.Proper
  moves := False
  visited _ _ := rfl
  walked _ := rfl
  shape held object := by
    obtain ⟨shapes, h⟩ := held.abreast
    exact Twin.exists_shape h.sound h.sound' h.related object
  prototype held object := by
    obtain ⟨shapes, h⟩ := held.abreast
    exact Twin.exists_prototype h.sound h.sound' h.related object
  step {_ _ r' b} held operation proper := by
    by_cases few : operation.requested b r' < sizeLimit
    · exact .inr (.inr (held.perform proper few))
    · exact .inr (.inl few)
  move := False.elim

/-- A heap that was reset is a twin of a new one. -/
theorem related_reset {grants : Nat → Bool} {config : Config} {requested : Nat} {heap fresh : Heap}
    (reached : Reached config requested heap) (ready : heap.arena.initialized = true)
    (made : (Heap.new grants config).answer = .ok fresh)
    (fixed : (reset heap).state.handles.nextGeneration 0 = 0) :
    (renewed (reset heap).state.handles.nextGeneration fixed).Related (reset heap).state.view
      fresh.view := by
  have setUp := set_up_of_reached reached
  have accounted := accounted_of_reached reached
  obtain ⟨given, given', configured, buckets, roots⟩ := new_eq_ok made
  have arena : fresh.arena = ⟨.empty, config.arenaCapacity, 0, 0, true⟩ := Arena.eq_of_new given
  have table : fresh.handles = .empty config.maxHandles := HandleTable.eq_of_withCapacity given'
  have labels : (reset heap).state.view.labels = heap.labels.invalidateAll := Twin.labels_endAll ..
  have generations : (reset heap).state.handles.nextGeneration =
      heap.labels.invalidateAll.nextGeneration := by
    rw [← labels]
    exact (HandleTable.nextGeneration_map ..).symm
  refine ⟨?_, ?_, False.elim, ?_, ?_, ?_, ?_⟩
  · exact setUp.configured.trans configured.symm
  · show HandleTable.Corresponds (reset heap).state.handles.nextGeneration _ _
    have limit : heap.labels.limit = _ := setUp.limit
    have ended := HandleTable.corresponds_ended ((HandleTable.accounted_map Placement.label _).mpr
      accounted) limit
    have fresh : fresh.view.labels = .empty config.maxHandles := by
      show fresh.handles.map Placement.label = _
      rw [table, HandleTable.map_empty]
    rw [generations, labels, fresh]
    exact ended
  · intro handle label known
    have none : fresh.labels.resolve handle = none := by
      rw [resolve_labels, HandleTable.resolve_withCapacity given']
      rfl
    cases known.symm.trans none
  · show RootSet.empty = fresh.roots.map _
    rw [roots, RootSet.map_empty]
  · show heap.buckets.clear.hashed = fresh.buckets.hashed
    rw [buckets]
    rfl
  · have usage : fresh.view.usage = fresh.arena.usage := rfl
    rw [usage, arena]
    exact ⟨ready, setUp.capacity ready, fun _ => rfl, False.elim⟩

end Renewed

/-! ## 5. Scripts -/

/-- The handle that was answered at a place of a session, null where there was none. -/
def Session.answered (given : List Handle) : Option Nat → Handle
  | some place => given.getD place .null
  | none => .null

theorem Session.answered_map {f : Handle → Handle} (null : f .null = .null) (given : List Handle)
    (name : Option Nat) : answered (given.map f) name = f (answered given name) := by
  cases name with
  | none => exact null.symm
  | some place =>
    simp only [answered, List.getD_eq_getElem?_getD, List.getElem?_map]
    cases given[place]? with
    | none => exact null.symm
    | some handle => rfl

/-- A script without put-in moves, whose operations tell nothing of buckets and set nothing that they
depend on. -/
def Script.Proper {ρ : Type} : Script ρ → Prop
  | done => True
  | perform operation rest => operation.Proper ∧ rest.Proper
  | move .. => False
  | walk _ _ body _ rest => (∀ visited, (body visited).Proper) ∧ rest.Proper

/-- No entry is of a move that was put in. -/
def Session.Steady (session : Session) : Prop := ∀ entry ∈ session.log, entry.isInserted = false

theorem Session.steady_start (heap : Heap) (requested : Nat) : (start heap requested).Steady :=
  fun _ logged => absurd logged List.not_mem_nil

theorem Session.Steady.add {session : Session} (steady : session.Steady) {entry : Entry}
    (plain : entry.isInserted = false) :
    ∀ other ∈ session.log ++ [entry], other.isInserted = false := by
  intro other logged
  rcases List.mem_append.mp logged with old | new
  · exact steady other old
  · rw [List.mem_singleton.mp new, plain]

theorem Script.Proper.steady {ρ : Type} {script : Script ρ} (proper : script.Proper)
    (read : List Handle → ρ → Handle) {session : Session} (steady : session.Steady) :
    (script.run read session).Steady := by
  induction script generalizing session with
  | done => exact steady
  | perform operation rest ih => exact ih proper.2 (steady.add rfl)
  | move => exact proper.elim
  | walk shaped start body stops rest called ih =>
    have walked := Session.walkFrom_keeps (P := Session.Steady) shaped stops
      (fun _ _ steady => steady.add rfl) (fun visited _ => called visited (proper.1 visited))
      maxChainDepth 0 .null (read session.given start) steady
    exact ih proper.2 (Session.Steady.add walked rfl)

theorem Script.Proper.erase {ρ : Type} {script : Script ρ} (proper : script.Proper) :
    script.erase = script := by
  induction script with
  | done => rfl
  | perform operation rest ih => rw [Script.erase, ih proper.2]
  | move => exact proper.elim
  | walk shaped start body stops rest called ih =>
    rw [Script.erase, ih proper.2, funext fun visited => called visited (proper.1 visited)]

theorem Renewed.permits {ρ : Type} {offset : UInt32 → UInt32} {fixed : offset 0 = 0}
    {script : Script ρ} (proper : script.Proper) :
    (Renewed.coupling offset fixed).Permits script := by
  induction script with
  | done => trivial
  | perform operation rest ih => exact ⟨fun read => proper.1.map read, ih proper.2⟩
  | move => exact proper.elim
  | walk shaped start body stops rest called ih =>
    exact ⟨fun visited => called visited (proper.1 visited), ih proper.2⟩

namespace Heap

/-- A script that is run after a reset goes as on a new heap, except for the generations of handles
and for the counts that go on from one session to the next. -/
theorem answers_of_reset {grants : Nat → Bool} {config : Config} {requested : Nat} {heap fresh : Heap}
    (reached : Reached config requested heap) (ready : heap.arena.initialized = true)
    (made : (Heap.new grants config).answer = .ok fresh) {script : Script (Option Nat)}
    (proper : script.Proper) :
    let offset := (reset heap).state.handles.nextGeneration
    let again := script.run Session.answered (.start (reset heap).state 0)
    let first := script.run Session.answered (.start fresh 0)
    (∀ entry ∈ first.log, entry.Counted) →
      again.log.map Entry.timeless =
          first.log.map (fun entry => (entry.rename (Handle.shift offset)).timeless) ∧
        again.given = first.given.map (Handle.shift offset) := by
  intro offset again first counted
  have fixed : offset 0 = 0 := rfl
  have tracked : Tracked 0 (reset heap).state := tracked_of_reached (reached.perform .reset)
  have tracked' := tracked_new made
  have few : 0 < sizeLimit := by decide
  have interned : (Operation.reset.perform heap).state.view.Interned (Operation.reset.relink heap []) :=
    interned_rewind rfl
  have abreast : (renewed offset fixed).Abreast [] (reset heap).state fresh :=
    ⟨(tracked.sound few).1, (tracked'.sound few).1, Renewed.related_reset reached ready made fixed,
      interned, interned_new made⟩
  have start : (Renewed.coupling offset fixed).Together (.start (reset heap).state 0)
      (.start fresh 0) := ⟨⟨tracked, tracked', rfl, few, [], abreast⟩, rfl, rfl⟩
  have natural (given : List Handle) (name : Option Nat) :
      Session.answered (given.map (Renewed.coupling offset fixed).rename) name =
        (Renewed.coupling offset fixed).rename (Session.answered given name) :=
    Session.answered_map (Handle.shift_null fixed) given name
  have went := Coupling.run natural (Renewed.permits proper) start
  rw [proper.erase] at went
  rcases went with (⟨entry, -, spent⟩ | ⟨entry, logged, spent⟩) | together
  · exact spent.elim
  · exact absurd (counted entry logged) spent
  · have steady : again.Steady := proper.steady Session.answered (Session.steady_start _ _)
    have all : again.log.filter (!·.isInserted) = again.log :=
      List.filter_eq_self.mpr fun entry logged => by rw [steady entry logged]; rfl
    have log := together.log
    rw [all] at log
    exact ⟨log, together.given⟩

/-- A session that leaves records, roots, free indices and an interned shape behind. -/
def leavingSession : List (Operation Handle) :=
  [.internShape .null, .allocObject ⟨1, 0⟩ 7, .pushElement ⟨2, 0⟩ (.int 5), .addRoot ⟨2, 0⟩,
    .invalidate ⟨2, 0⟩, .allocShape .null 1]

/-- Makes an object with an interned shape and an element, ends the shape and walks from the
object. -/
def returningScript : Script (Option Nat) :=
  .perform (.internShape none) <| .perform (.allocObject (some 0) 7) <|
    .perform (.pushElement (some 1) (.object (some 0))) <| .perform (.invalidate (some 0)) <|
      .perform (.internShape none) <| .perform (.element (some 1) 0) <|
        .walk false (some 1) (fun _ => .perform (.addRoot (some 1)) .done) (fun _ => false) .done

/-- That script, on a heap that was used before, is answered the indices that it is answered on a new
one, in later generations. -/
theorem returning_small :
    let heap := newSmall.run leavingSession
    let again := returningScript.run Session.answered (.start (reset heap).state 0)
    let first := returningScript.run Session.answered (.start newSmall 0)
    Reached { arenaCapacity := 1024 } (runCounting 0 newSmall leavingSession).1 heap ∧
      heap.arena.initialized = true ∧ returningScript.Proper ∧
      (∀ entry ∈ first.log, entry.Counted) ∧
      again.log.map Entry.timeless = first.log.map (fun entry =>
        (entry.rename (Handle.shift (reset heap).state.handles.nextGeneration)).timeless) ∧
      again.given.map Handle.index = first.given.map Handle.index ∧
      (reset heap).state.handles.nextGeneration 2 = 2 := by
  intro heap again first
  have reached : Reached { arenaCapacity := 1024 } _ heap := reached_run (.new new_small) leavingSession
  have ready : heap.arena.initialized = true := by decide +kernel
  have proper : returningScript.Proper :=
    ⟨trivial, trivial, trivial, trivial, trivial, trivial, fun _ => ⟨trivial, trivial⟩, trivial⟩
  have counted : ∀ entry ∈ first.log, entry.Counted := by decide +kernel
  have later : (reset heap).state.handles.nextGeneration 2 = 2 := by decide +kernel
  obtain ⟨log, given⟩ := answers_of_reset reached ready new_small proper counted
  refine ⟨reached, ready, proper, counted, log, ?_, later⟩
  rw [show again.given = _ from given, List.map_map]
  rfl

end Heap

end HandleHeap
