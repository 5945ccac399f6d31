import HandleHeap.Proofs.Pairing.Twin
import HandleHeap.Proofs.Session.Coupling
import HandleHeap.Proofs.Shape.Interning

/-!
# Moving records does not show

A heap some of whose records were moved differs from the heap it would be without in where its records
lie, and in nothing that an operation reads. So moves that are put into a script change none of its
answers (`answers_of_moved`), but for the offset of the arena and what is told of its use, unless
the moves leave too little space for the rest of the script.

The shape buckets are followed through records that may be broken, and are so on both heaps alike.
-/

namespace HandleHeap

open HandleHeap.Action Heap

/-- Heaps that have the same records in different places. -/
def moved : Twin where
  offset _ := 0
  fixed := Twin.fixed_zero
  lockstep := False
  exact := True
  alike _ a b := a = b
  configs a b := a = b
  buckets a b := a = b
  readable _ := True
  writable _ := True
  unmoved := Twin.unmoved_zero
  length same := congrArg List.length same
  zeros _ _ := rfl
  newShape proto propSize := by rw [Handle.shift_zero]
  fitted _ same _ _ := by rw [same]
  read _ same := by rw [same, Handle.shift_none, Scalar.map_id]
  write _ _ same value := by rw [same, Handle.shift_none, Scalar.map_id]
  slot same _ := by rw [same, Handle.shift_none, Slot.map_id]
  setSlot same _ slot := by rw [same, Handle.shift_none, Slot.map_id]
  element same _ := by rw [same, Handle.shift_none, Value.map_id]
  setElement same _ value := by rw [same, Handle.shift_none, Value.map_id]
  cleared same := by rw [same]
  objects _ := ⟨trivial, trivial⟩
  proto := trivial
  propSize := trivial

namespace Moved

theorem rename : moved.pairing.rename = id := Handle.shift_none

/-- What is done on both heaps, with the same handles and without asking for space. -/
abbrev Parallel {α : Type} (action : HeapAction α) : Prop := moved.still.Parallel Eq action action

abbrev Looks {α : Type} (report : Heap → Report Stop α) : Prop :=
  moved.pairing.Looks Eq report report

variable {a b : Heap} {layout : Layout} {scalar : Scalar}

/-! ## 1. Shape buckets -/

theorem tryGet (handle : Handle) (field : Field layout scalar) : Looks (·.tryGet handle field) := by
  have looks : moved.pairing.Looks _ (·.tryGet _ field) (·.tryGet _ field) :=
    moved.lawful.tryGet trivial handle
  rw [rename] at looks
  exact looks.mono fun same => same.trans (scalar.map_id _)

theorem get (handle : Handle) (field : Field layout scalar) : Looks (·.get handle field) :=
  (tryGet handle field).withDefault rfl

theorem set (handle : Handle) (field : Field layout scalar) (value : scalar.Carrier Handle) :
    Parallel (Heap.set handle field value) := by
  have parallel : moved.still.Parallel _ (Heap.set _ field _) (Heap.set _ field _) :=
    moved.parallel_set trivial handle value
  rwa [show moved.rename = id from Handle.shift_none, Scalar.map_id] at parallel

theorem buckets (related : moved.Related a.view b.view) : a.buckets = b.buckets := related.buckets

theorem live (related : moved.Related a.view b.view) : a.handles.live = b.handles.live :=
  related.labels.live

/-- What can be told from the buckets alone. -/
theorem looks_buckets {α : Type} (f : ShapeBuckets → α) :
    Looks fun heap => pure (f heap.buckets) := by
  intro a b _ _ related
  exact .ok (congrArg f (buckets related))

theorem onBuckets (change : ShapeBuckets → ShapeBuckets) :
    Parallel (Heap.onBuckets change) := by
  intro a b sound sound' related
  have related : moved.Related a.view b.view := related
  exact .ok rfl { related with buckets := congrArg change (buckets related) }
    (sound.withBuckets _) (sound'.withBuckets _)

theorem countUnhashed : Parallel Heap.countUnhashed := by
  intro a b sound sound' related
  have related : moved.Related a.view b.view := related
  have same := buckets related
  unfold Heap.countUnhashed
  rw [same]
  split
  · exact .error related
  · exact .ok rfl { related with buckets := rfl } (sound.withBuckets _) (sound'.withBuckets _)

theorem shapeMatches (shape proto : Handle) : Looks (·.shapeMatches shape proto) := by
  refine (get shape ShapeField.hash).bind fun hash _ same => ?_
  cases same
  split
  · exact .pure rfl
  refine (get shape ShapeField.proto).bind fun found _ same => ?_
  cases same
  split
  · exact .pure rfl
  refine (get shape ShapeField.propCount).bind fun count _ same => ?_
  cases same
  exact .pure rfl

theorem findFrom (proto : Handle) (remaining : Nat) (current : Handle) :
    Looks (·.findFrom proto remaining current) := by
  induction remaining generalizing current with
  | zero =>
    unfold Heap.findFrom
    split
    · exact .pure rfl
    · exact fun _ _ _ _ _ => .error _
  | succ remaining ih =>
    unfold Heap.findFrom
    split
    · exact .pure rfl
    refine (shapeMatches current proto).bind fun found _ same => ?_
    cases same
    split
    · exact .pure rfl
    refine (get current ShapeField.hashNext).bind fun next _ same => ?_
    cases same
    exact ih next

theorem predecessor (shape : Handle) (remaining : Nat) (previous current : Handle) :
    Looks (·.predecessor shape remaining previous current) := by
  induction remaining generalizing previous current with
  | zero =>
    unfold Heap.predecessor
    split
    · exact .pure rfl
    split <;> exact fun _ _ _ _ _ => .error _
  | succ remaining ih =>
    unfold Heap.predecessor
    split
    · exact .pure rfl
    split
    · exact fun _ _ _ _ _ => .error _
    refine (get current ShapeField.hashNext).bind fun next _ same => ?_
    cases same
    exact ih current next

/-- A search from the head of the bucket of a hash, with the bound on its steps. -/
theorem looks_chain {α : Type} {report : Heap → Nat → Handle → Report Stop α}
    (alike : ∀ remaining current, Looks (report · remaining current)) (hash : UInt32) :
    Looks fun heap => report heap heap.chainLimit (heap.buckets.head (heap.bucketOf hash)) := by
  intro a b sound sound' related
  have limit : a.chainLimit = b.chainLimit := congrArg (· + 1) (live related)
  show Alike Eq (report a a.chainLimit (a.buckets.head (a.buckets.bucket hash))).answer
    (report b b.chainLimit (b.buckets.head (b.buckets.bucket hash))).answer
  rw [limit, buckets related]
  exact alike _ _ a b sound sound' related

theorem findShape (proto : Handle) : Looks (·.findShape proto) :=
  looks_chain (findFrom proto) proto.shapeHash

theorem hashShape (shape : Handle) : Parallel (Heap.hashShape shape) := by
  refine .bind (.look (tryGet shape ShapeField.isHashed)) fun hashed _ same => ?_
  cases same
  split
  · exact .pure rfl
  refine .bind (.look (tryGet shape ShapeField.hash)) fun hash _ same => ?_
  cases same
  refine .bind (.look (looks_buckets fun buckets => buckets.head (buckets.bucket hash)))
    fun first _ same => ?_
  cases same
  exact .bind (set shape ShapeField.hashNext first) fun _ _ _ =>
    .bind (set shape ShapeField.isHashed true) fun _ _ _ => onBuckets _

theorem unmark (shape : Handle) : Parallel (Heap.unmark shape) :=
  .bind (set shape ShapeField.hashNext .null) fun _ _ _ =>
    .bind (set shape ShapeField.isHashed false) fun _ _ _ =>
      .bind countUnhashed fun _ _ _ => .pure rfl

theorem passOver (shape : Handle) (hash : UInt32) (next previous : Handle) :
    Parallel (Heap.passOver shape hash next previous) := by
  unfold Heap.passOver
  split
  · exact .bind (onBuckets _) fun _ _ _ => unmark shape
  · exact .bind (set previous ShapeField.hashNext next) fun _ _ _ => unmark shape

theorem unhashShape (shape : Handle) : Parallel (Heap.unhashShape shape) := by
  rw [unhashShape_eq]
  refine .bind (.look (tryGet shape ShapeField.isHashed)) fun hashed _ same => ?_
  cases same
  split
  · refine .bind (.look (tryGet shape ShapeField.hash)) fun hash _ same => ?_
    cases same
    refine .bind (.look (tryGet shape ShapeField.hashNext)) fun next _ same => ?_
    cases same
    refine .bind (.look (looks_chain (fun remaining => predecessor shape remaining .null) hash))
      fun previous _ same => ?_
    cases same
    exact passOver shape hash next previous
  · exact .pure rfl

theorem internShape (proto : Handle) :
    moved.pairing.Parallel Eq (Heap.internShape proto) (Heap.internShape proto) := by
  have alloc := moved.lawful.allocShape proto initialPropSize
  rw [rename] at alloc
  refine .bind (.look (findShape proto)) fun found _ same => ?_
  cases same
  cases found with
  | some shape => exact .bind (.emit _ _) fun _ _ _ => .pure rfl
  | none =>
    refine .bind alloc fun _ shape same => ?_
    cases same
    exact .bind (Twin.parallel_of_still (hashShape shape)) fun _ _ _ =>
      .bind (.emit _ _) fun _ _ _ => .pure rfl

/-! ## 2. Ends and raw bytes -/

theorem ended (handle : Handle) : Parallel (onTable (HandleTable.invalidate handle)) := by
  have parallel := moved.parallel_end handle
  rwa [show moved.rename = id from Handle.shift_none] at parallel

/-- A shape that cannot be taken out of its bucket is ended all the same, on both sides. -/
theorem attempt_unhashShape (shape : Handle) :
    Parallel (Action.attempt (Heap.unhashShape shape)) := by
  intro a b sound sound' related
  have agree := unhashShape shape a b sound sound' related
  have settled := (touches_unhashShape sound.toSeparated shape).sound sound
  have settled' := (touches_unhashShape sound'.toSeparated shape).sound sound'
  unfold Action.attempt
  generalize Heap.unhashShape shape a = x, Heap.unhashShape shape b = y at agree settled settled' ⊢
  cases agree with
  | ok same related => exact .ok (by rw [same]) related settled settled'
  | @error stop _ _ _ _ related =>
    cases stop with
    | refused e => exact .ok rfl related settled settled'
    | fault f => exact .error related
  | spent free => exact absurd trivial free

theorem invalidate (handle : Handle) : Parallel (Heap.invalidate handle) := by
  have kind := moved.lawful.kind handle
  rw [rename] at kind
  refine .bind (.look kind) fun kind _ same => ?_
  cases same
  extract_lets finished
  have finished_alike (r : Unit) : Parallel (finished r) := ended handle
  split
  · refine .bind (.look (get handle ShapeField.isHashed)) fun hashed _ same => ?_
    cases same
    split
    · refine .bind (attempt_unhashShape handle) fun tried _ same => ?_
      cases same
      cases tried with
      | ok _ => exact .pure_bind (finished_alike ())
      | error e => exact .bind (.emit _ _) fun _ _ _ => finished_alike ()
    · exact finished_alike ()
  · exact finished_alike ()

theorem bytes_eq (sound : a.Sound) (sound' : b.Sound) (related : moved.Related a.view b.view)
    (handle : Handle) : a.bytes? handle = b.bytes? handle := by
  have resolve : a.labels.resolve handle = b.labels.resolve handle :=
    congrArg (·.resolve handle) (related.same trivial)
  have labels := (a.resolve_labels handle).symm.trans (resolve.trans (b.resolve_labels handle))
  cases left : a.handles.resolve handle with
  | none =>
    rw [left] at labels
    have right : b.handles.resolve handle = none := Option.map_eq_none_iff.mp labels.symm
    rw [bytes?, bytes?, left, right]
    rfl
  | some p =>
    rw [left] at labels
    obtain ⟨q, right, -⟩ := Option.map_eq_some_iff.mp labels.symm
    have stored : (a.bytes? (moved.rename handle)).getD [] = (b.bytes? handle).getD [] :=
      related.bytes (b.resolve_labels handle ▸ congrArg (Option.map Placement.label) right)
    rw [show moved.rename = id from Handle.shift_none] at stored
    rw [id, sound.bytes?_eq left, sound'.bytes?_eq right] at stored
    rw [sound.bytes?_eq left, sound'.bytes?_eq right]
    exact congrArg some stored

theorem bytes (handle : Handle) : Looks fun heap => pure (heap.bytes? handle) :=
  fun _ _ sound sound' related => .ok (bytes_eq sound sound' related handle)

theorem overwrite (handle : Handle) (start : Nat) (source : List UInt8) :
    Parallel (Heap.overwrite handle start source) := by
  have parallel := moved.parallel_overwrite (fun same _ _ => congrArg (splice · _ _) same) handle
    start source
  rwa [show moved.rename = id from Handle.shift_none] at parallel

end Moved

/-! ## 3. Operations -/

/-- What is told of the use of an arena, but for its offset. -/
def ArenaUsage.plain (usage : ArenaUsage) : ArenaUsage := { usage with used := 0, available := 0 }

def HeapStats.plain (counts : HeapStats) : HeapStats :=
  { counts with arenaUsed := 0, arenaAvailable := 0 }

/-- An answer without the offset of the arena, and without the place of a block that was taken
straight from it. -/
def Operation.plain (operation : Operation Handle) (answer : Answer Handle) : Answer Handle :=
  match operation, answer with
  | .reserve _, .number _ => .done
  | _, .usage usage => .usage usage.plain
  | _, .stats counts => .stats counts.plain
  | _, answer => answer

namespace Moved

/-- Answers that are the same but for the offset of the arena. -/
def Same (operation : Operation Handle) (u v : Answer Handle) : Prop :=
  operation.plain u = operation.plain v ∧ u.handles = v.handles

theorem Same.of_eq {operation : Operation Handle} {u v : Answer Handle} (same : u = v) :
    Same operation u v := by
  rw [same]
  exact ⟨rfl, rfl⟩

theorem answer_map_id (answer : Answer Handle) : answer.map id = answer := by
  cases answer with
  | handle? h => exact congrArg Answer.handle? Option.map_id_apply
  | scalar s v => exact congrArg (Answer.scalar s) (s.map_id v)
  | slot s => exact congrArg Answer.slot s.map_id
  | value v => exact congrArg Answer.value v.map_id
  | roots list => exact congrArg Answer.roots (by simp)
  | _ => rfl

theorem perform_plain {operation : Operation Handle} (plain : moved.pairing.Plain operation) :
    moved.pairing.Parallel (Same operation) operation.perform operation.perform := by
  have both := moved.lawful.perform moved.rename_injective plain
  rw [rename, Operation.map_id] at both
  exact both.mono fun same => .of_eq (same.trans (answer_map_id _))

/-- A fact that is told of both heaps. -/
theorem telling {operation : Operation Handle} {fact : Heap → Answer Handle}
    (same : ∀ {a b : Heap}, a.Sound → b.Sound → moved.Related a.view b.view →
      Same operation (fact a) (fact b)) :
    moved.pairing.Parallel (Same operation) (Operation.telling fact) (Operation.telling fact) :=
  .bind (.look (M := moved.pairing) fun _ _ sound sound' related =>
    .ok (same sound sound' related)) fun _ _ same => .pure same

theorem same_usage {a b : Arena} (same : moved.SameUsage a.usage b.usage) :
    a.usage.plain = b.usage.plain := by
  have capacity : a.capacity = b.capacity := same.capacity
  have epoch : a.epoch = b.epoch := same.epoch trivial
  have initialized : a.initialized = b.initialized := same.initialized
  simp only [Arena.usage, ArenaUsage.plain, capacity, epoch, initialized]

theorem same_stats {a b : Heap} (related : moved.Related a.view b.view) :
    a.stats.plain = b.stats.plain := by
  have tables : a.labels = b.labels := related.same trivial
  have free : a.handles.free = b.handles.free := (congrArg HandleTable.free tables :)
  have capacity : a.handles.capacity = b.handles.capacity := by
    have sizes : (a.handles.entries.map _).size = (b.handles.entries.map _).size :=
      congrArg (·.entries.size) tables
    rw [Array.size_map, Array.size_map] at sizes
    exact sizes
  have epoch : a.arena.epoch = b.arena.epoch := related.usage.epoch trivial
  rw [related.stats, buckets related, epoch, free, capacity]
  rfl

/-- An operation answers the same on heaps that have the same records in different places. -/
theorem perform (operation : Operation Handle) (onward : operation.rewinds = false) :
    moved.pairing.Parallel (Same operation) operation.perform operation.perform := by
  have answering {α : Type} {f : HeapAction α} {tell : α → Answer Handle}
      (h : moved.pairing.Parallel Eq f f) :
      moved.pairing.Parallel (Same operation) (f >>= fun u => pure (tell u))
        (f >>= fun u => pure (tell u)) :=
    h.bind fun _ _ same => .pure (.of_eq (congrArg tell same))
  cases operation with
  | reserve size => exact (Twin.parallel_request size).bind fun _ _ _ => .pure ⟨rfl, rfl⟩
  | arenaUsage =>
    exact telling fun _ _ related => ⟨congrArg Answer.usage (same_usage related.usage), rfl⟩
  | config => exact telling fun _ _ related => .of_eq (congrArg Answer.config related.config)
  | stats =>
    exact telling fun _ _ related => ⟨congrArg Answer.stats (same_stats related), rfl⟩
  | bytes target =>
    exact telling fun sound sound' related =>
      .of_eq (congrArg Answer.bytes (bytes_eq sound sound' related target))
  | overwrite target start source =>
    exact answering (Twin.parallel_of_still (overwrite target start source))
  | invalidate target => exact answering (Twin.parallel_of_still (invalidate target))
  | findShape proto => exact answering (.look (findShape proto))
  | internShape proto => exact answering (internShape proto)
  | hashShape shape => exact answering (Twin.parallel_of_still (hashShape shape))
  | unhashShape shape => exact answering (Twin.parallel_of_still (unhashShape shape))
  | reset | teardown => cases onward
  | _ => exact perform_plain trivial

end Moved

/-! ## 4. Sessions -/

/-- What can be told of an entry whether or not records were moved before. -/
def Entry.plain : Entry → Entry
  | step operation answer inserted _ _ =>
    step operation (answer.map operation.plain) inserted 0 0
  | visit object shape => visit object shape
  | walked ended => walked ended

/-- Nothing was refused for lack of space, and requests have not led around 2 ^ 64. -/
def Entry.Roomy : Entry → Prop
  | step _ answer _ requested _ =>
    requested < sizeLimit ∧ ∀ stop : Stop, answer = .error stop → ¬ stop.Exhausted
  | _ => True

instance : DecidablePred Stop.Exhausted := fun stop =>
  let exhausted : Bool := match stop with
    | .refused (.outOfMemory (.exhausted ..)) => true
    | _ => false
  decidable_of_iff (exhausted = true) <| by
    constructor
    · intro told
      unfold exhausted at told
      split at told
      · exact ⟨_, _, _, rfl⟩
      · cases told
    · rintro ⟨_, _, _, rfl⟩
      rfl

instance : DecidablePred Entry.Roomy
  | .step _ (.ok _) _ requested _ => decidable_of_iff (requested < sizeLimit)
    (and_iff_left nofun).symm
  | .step _ (.error stop) _ requested _ => decidable_of_iff (requested < sizeLimit ∧ ¬ stop.Exhausted)
    (and_congr_right fun _ => ⟨fun free _ same => Except.error.inj same ▸ free, fun free => free _ rfl⟩)
  | .visit .. | .walked _ => .isTrue trivial

theorem roomy_entry {operation : Operation Handle} {heap : Heap} {requested : Nat}
    {inserted : Bool} : (operation.entry heap requested inserted).Roomy ↔
      operation.requested heap requested < sizeLimit ∧ ∀ stop : Stop,
        (operation.perform heap).answer = .error stop → ¬ stop.Exhausted := Iff.rfl

namespace Moved

/-- Heaps with the same records in different places, as sessions leave them. -/
structure Held (r : Nat) (a : Heap) (r' : Nat) (b : Heap) : Prop where
  tracked : a.Tracked r
  tracked' : b.Tracked r'
  few : r < sizeLimit
  few' : r' < sizeLimit
  related : moved.Related a.view b.view

namespace Held

variable {r r' : Nat} (held : Held r a r' b)
include held

theorem sound : a.Sound := (held.tracked.sound held.few).1

theorem sound' : b.Sound := (held.tracked'.sound held.few').1

/-- An operation on both heaps. -/
theorem perform (operation : Operation Handle) :
    ¬ (operation.entry a r false).Roomy ∨ ¬ (operation.entry b r' false).Roomy ∨
      ((operation.entry a r false).plain = (operation.entry b r' false).plain ∧
        handlesOf (operation.perform a).answer = handlesOf (operation.perform b).answer ∧
        Held (operation.requested a r) (operation.perform a).state
          (operation.requested b r') (operation.perform b).state) := by
  by_cases few : operation.requested a r < sizeLimit
  swap
  · exact .inl fun roomy => few (roomy_entry.mp roomy).1
  by_cases few' : operation.requested b r' < sizeLimit
  swap
  · exact .inr (.inl fun roomy => few' (roomy_entry.mp roomy).1)
  have settled (related : moved.Related (operation.perform a).state.view
      (operation.perform b).state.view) : Held (operation.requested a r)
        (operation.perform a).state (operation.requested b r') (operation.perform b).state :=
    ⟨held.tracked.perform operation, held.tracked'.perform operation, few, few', related⟩
  have exhausted {heap : Heap} {requested : Nat}
      (spent : (operation.perform heap).Exhausted) :
      ¬ (operation.entry heap requested false).Roomy := by
    obtain ⟨stop, answer, exhausted⟩ := spent
    exact fun roomy => (roomy_entry.mp roomy).2 stop answer exhausted
  cases rewinds : operation.rewinds with
  | true =>
    obtain ⟨left, right, related⟩ := Twin.related_rewound held.related rewinds
    rw [show moved.rename = id from Handle.shift_none, Operation.map_id] at left related
    refine .inr (.inr ⟨?_, by rw [left, right], settled related⟩)
    simp only [Operation.entry, Entry.plain, left, right]
  | false =>
    have agree := Moved.perform operation rewinds a b held.sound held.sound' held.related
    rcases agree.alike with ⟨-, spent | spent⟩ | ⟨alike, related⟩
    · exact .inl (exhausted spent)
    · exact .inr (.inl (exhausted spent))
    refine .inr (.inr ⟨?_, ?_, settled related⟩)
    · simp only [Operation.entry, Entry.plain]
      generalize (operation.perform a).answer = x, (operation.perform b).answer = y at alike
      cases alike with
      | ok same => simp only [Except.map, same.1]
      | error stop => rfl
    · generalize (operation.perform a).answer = x, (operation.perform b).answer = y at alike
      cases alike with
      | ok same => exact same.2
      | error stop => rfl

/-- Moving a record of the first heap, or being refused to, does not show. -/
theorem move (handle : Handle) :
    ¬ ((Operation.relocate handle).entry a r true).Roomy ∨
      Held ((Operation.relocate handle).requested a r)
        ((Operation.relocate handle).perform a).state r' b := by
  by_cases few : (Operation.relocate handle).requested a r < sizeLimit
  swap
  · exact .inl fun roomy => few (roomy_entry.mp roomy).1
  refine .inr ⟨held.tracked.perform _, held.tracked', few, held.few', ?_⟩
  have related := held.related
  have asked (size : Nat) : moved.Related (a.asked size) b.view := by
    refine { related with usage := ?_ }
    show moved.SameUsage (Arena.allocate size a.arena).state.usage b.arena.usage
    rw [Arena.state_allocate held.tracked.regular.used_lt]
    exact ⟨related.usage.initialized, related.usage.capacity, False.elim, related.usage.epoch⟩
  have state : ((Operation.relocate handle).perform a).state = (relocate handle a).state :=
    state_bind_pure _ _ _
  have effect := held.sound.relocate handle
  rw [state]
  generalize (relocate handle a).state = after, (relocate handle a).answer = answer at effect
  cases effect with
  | missing _ same | pinned _ same => exact same ▸ related
  | refused _ _ _ view | moved _ _ _ view => exact view ▸ asked _

end Held

/-- Sessions that differ in moves that were put into the first. -/
def coupling : Coupling where
  rename := id
  null := rfl
  isNull _ := rfl
  Seen := Entry
  seen := Entry.plain
  seen' := Entry.plain
  spent entry := ¬ entry.Roomy
  spent' entry := ¬ entry.Roomy
  held := Held
  allowed _ := True
  moves := True
  visited object shape := by rw [Option.map_id]; rfl
  walked ended := by
    rcases ended with stop | walked
    · rfl
    · cases walked <;> rfl
  shape held object := by
    have shape := Twin.exists_shape held.sound held.sound' held.related object
    rwa [show moved.rename = id from Handle.shift_none] at shape
  prototype held object := by
    have next := Twin.exists_prototype held.sound held.sound' held.related object
    rwa [show moved.rename = id from Handle.shift_none] at next
  step held operation _ := by
    rw [Operation.map_id, List.map_id]
    exact held.perform operation
  move _ _ _ _ _ held handle := held.move handle

theorem related_self {heap : Heap} (accounted : heap.handles.Accounted) :
    moved.Related heap.view heap.view where
  config := rfl
  labels := .refl ((HandleTable.accounted_map ..).mpr accounted)
  same _ := rfl
  bytes {handle label} _ := by
    rw [show moved.rename = id from Handle.shift_none]
    rfl
  roots := by
    rw [show moved.rename = id from Handle.shift_none]
    exact (RootSet.map_id _).symm
  buckets := rfl
  usage := ⟨rfl, rfl, fun _ => rfl, fun _ => rfl⟩

theorem permits {ρ : Type} (script : Script ρ) : coupling.Permits script := by
  induction script with
  | done => trivial
  | perform operation rest ih => exact ⟨fun _ => trivial, ih⟩
  | move target rest ih => exact ⟨trivial, ih⟩
  | walk shaped start body stops rest called ih => exact ⟨called, ih⟩

end Moved

/-! ## 5. Scripts -/

namespace Heap

/-- Moves that are put into a script, walks included, change no answer of the rest, as long as there
is space. And a record that was moved is what it was. -/
theorem answers_of_moved {config : Config} {requested : Nat} {heap : Heap}
    (reached : Reached config requested heap) (few : requested < sizeLimit) :
    (∀ {ρ : Type} (read : List Handle → ρ → Handle) (script : Script ρ),
      let moving := script.run read (.start heap requested)
      let still := script.erase.run read (.start heap requested)
      (∀ entry ∈ moving.log, entry.Roomy) → (∀ entry ∈ still.log, entry.Roomy) →
        (moving.log.filter (!·.isInserted)).map Entry.plain = still.log.map Entry.plain) ∧
      ∀ handle, (relocate handle heap).answer = .ok () → ∀ other,
        let after := (relocate handle heap).state
        after.kind? other = heap.kind? other ∧ after.isPinned other = heap.isPinned other ∧
          after.bytes? other = heap.bytes? other := by
  have tracked := tracked_of_reached reached
  have sound := (tracked.sound few).1
  refine ⟨fun read script roomy roomy' => ?_, fun handle answer other => ?_⟩
  · have accounted := accounted_of_reached reached
    have start : Moved.coupling.Together (.start heap requested) (.start heap requested) :=
      ⟨⟨tracked, tracked, few, few, Moved.related_self accounted⟩, rfl, rfl⟩
    have natural (given : List Handle) (name) : read (given.map Moved.coupling.rename) name =
        Moved.coupling.rename (read given name) := by
      rw [show Moved.coupling.rename = id from rfl, List.map_id]
      rfl
    rcases Coupling.run natural
      (Moved.permits script) start with spent | together
    · rcases spent with ⟨entry, logged, spent⟩ | ⟨entry, logged, spent⟩
      · exact absurd (roomy entry logged) spent
      · exact absurd (roomy' entry logged) spent
    · exact together.log
  · have effect := sound.relocate handle
    rw [answer] at effect
    generalize (relocate handle heap).state = after at effect
    cases effect with
    | moved _ _ _ view =>
      have kind := congrArg (View.kind? · other) view
      have labels : after.labels = heap.labels := congrArg View.labels view
      refine ⟨?_, ?_, congrFun (congrArg View.bytes view) other⟩
      · rw [← kind?_view, kind]
        exact kind?_view other
      · rw [isPinned_labels, isPinned_labels, labels]

/-- Sets a field of an object, then walks from it and reads the field. The object is moved before the
walk, and again while it is visited. -/
def movingScript : Script Handle :=
  .perform (.set ⟨1, 0⟩ ObjectField.classId (9 : UInt16)) <| .move ⟨1, 0⟩ <|
    .walk false ⟨1, 0⟩ (fun _ => .move ⟨1, 0⟩ (.perform (.get ⟨1, 0⟩ ObjectField.classId) .done))
      (fun _ => false) .done

/-- The moves take up space, and what is read is the same. -/
theorem moved_small :
    let heap := newSmall.run [.allocObject .null 7]
    let moving := movingScript.run (fun _ handle => handle) (.start heap 48)
    let still := movingScript.erase.run (fun _ handle => handle) (.start heap 48)
    Reached { arenaCapacity := 1024 } 48 heap ∧
      ((∀ entry ∈ moving.log, entry.Roomy) ∧ (∀ entry ∈ still.log, entry.Roomy) ∧
        moving.log.length = still.log.length + 2 ∧
        still.heap.arena.used < moving.heap.arena.used) ∧
      (moving.log.filter (!·.isInserted)).map Entry.plain = still.log.map Entry.plain ∧
      (relocate ⟨1, 0⟩ heap).state.bytes? ⟨1, 0⟩ = heap.bytes? ⟨1, 0⟩ := by
  intro heap moving still
  have count : (runCounting 0 newSmall [.allocObject .null 7]).1 = 48 := by decide +kernel
  have reached : Reached { arenaCapacity := 1024 } 48 heap := by
    have reached := reached_run (.new new_small) [.allocObject .null 7]
    rwa [count] at reached
  have roomy : (∀ entry ∈ moving.log, entry.Roomy) ∧ (∀ entry ∈ still.log, entry.Roomy) ∧
      moving.log.length = still.log.length + 2 ∧
      still.heap.arena.used < moving.heap.arena.used := by decide +kernel
  have given : (relocate ⟨1, 0⟩ heap).answer = .ok () := by decide +kernel
  obtain ⟨answers, kept⟩ := answers_of_moved reached (by decide)
  exact ⟨reached, roomy, answers _ _ roomy.1 roomy.2.1, (kept _ given _).2.2⟩

end Heap

end HandleHeap
