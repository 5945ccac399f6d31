import HandleHeap.Proofs.Chain.Lockstep
import HandleHeap.Proofs.Heap.Lineage

/-!
# Walks that their bodies leave on course

The body of a walk may make records, move and pin them, fill their slots and elements and put shapes
into buckets. It may do so with the object that is visited, with its shape and with what they point
to, and be refused as often as it likes. The walk goes where it would go if its body did nothing,
provided that the handles it meets are live from the start: a handle that is not may be issued on
the way.

* `idling`: the body that does nothing.
* `Heap.LiveAlong`: the objects and shapes that a walk with that body meets are live.
* `Outcome.Performs`: what a call of a body comes to that performs tame operations.
* `Heap.GoAlike`, `Heap.PassAlike`: two walks that visit the same from a visit on and end alike, with
  one lemma for each way in which a visit can end.
* `walkFrom_undisturbed`, `walkWithShapeFrom_undisturbed`: so do a walk and one with an idle body, from
  any of its visits on.
* `walks_undisturbed`: this for the two walks from their start.
-/

namespace HandleHeap

open HandleHeap.Action

variable {σ τ β : Type}

/-! ## 1. Idle bodies -/

/-- The body that does nothing but count its calls. It ends the walk at the calls that a value is
given for. -/
def idling (ends : Nat → Option β) (count : Nat) (_object : Handle) :
    HeapAction (Nat × Option β) :=
  pure (count + 1, ends count)

/-- The same for a walk that passes shapes. -/
def idlingWithShape (ends : Nat → Option β) (count : Nat) (object _shape : Handle) :
    HeapAction (Nat × Option β) :=
  idling ends count object

/-- What a walk that passes shapes passes to its body. -/
def passed (call : Visit σ × Handle) : Handle × Handle := (call.1.object, call.2)

/-- Whether the object of a visit has a live shape, if it has one. -/
def Visit.shapeLives (visit : Visit σ) : Bool := visit.shape.answer.toOption.all fun shape =>
  shape.isNull || visit.heap.isLive shape

/-- Two walks that end with the same answer, whatever their bodies keep. -/
def Outcome.EndsAlike (a : Outcome Stop Heap (σ × ChainWalk β))
    (b : Outcome Stop Heap (τ × ChainWalk β)) : Prop :=
  ∃ ended own own', a.answer = .ok (own, ended) ∧ b.answer = .ok (own', ended)

theorem Outcome.EndsAlike.of_alike {a a' : Outcome Stop Heap (σ × ChainWalk β)}
    {b b' : Outcome Stop Heap (τ × ChainWalk β)} (ends : a'.EndsAlike b') (left : a.Alike a')
    (right : b.Alike b') : a.EndsAlike b := by
  obtain ⟨ended, own, own', first, second⟩ := ends
  exact ⟨ended, own, own', left.answer.trans first, right.answer.trans second⟩

/-- A call of a body that performs operations, whether they are done or refused, which write no
field and end no record. Then it ends the walk with a value or lets it go on. -/
structure Outcome.Performs (out : Outcome Stop Heap (σ × Option β)) (before : Heap)
    (work : List (Operation Handle)) (ends : Option β) : Prop where
  tame : ∀ operation ∈ work, operation.tame = true
  state : out.state = before.run work
  answer : ∃ own, out.answer = .ok (own, ends)

/-- The calls of a body perform their work each, and give a value where one is given for the number
of the call. -/
def EachPerforms {κ : Type} (out : κ → Outcome Stop Heap (σ × Option β)) (before : κ → Heap)
    (work : κ → List (Operation Handle)) (ends : Nat → Option β) (calls : List κ) : Prop :=
  ∀ index call, calls[index]? = some call →
    (out call).Performs (before call) (work call) (ends index)

section Each

variable {κ : Type} {out : κ → Outcome Stop Heap (σ × Option β)} {before : κ → Heap}
  {work : κ → List (Operation Handle)} {ends : Nat → Option β} {calls : List κ}

theorem EachPerforms.tame (each : EachPerforms out before work ends calls) :
    ∀ operation ∈ calls.flatMap work, operation.tame = true := by
  intro operation member
  obtain ⟨call, called, member⟩ := List.mem_flatMap.mp member
  obtain ⟨index, here⟩ := List.getElem?_of_mem called
  exact (each index call here).tame operation member

/-- The first call and those after it, which are numbered on from it. -/
theorem EachPerforms.cons {call : κ} {count : Nat}
    (each : EachPerforms out before work (fun index => ends (count + index)) (call :: calls)) :
    (out call).Performs (before call) (work call) (ends count) ∧
      EachPerforms out before work (fun index => ends (count + 1 + index)) calls := by
  refine ⟨each 0 call rfl, fun index later here => ?_⟩
  show (out later).Performs (before later) (work later) (ends (count + 1 + index))
  rw [Nat.add_right_comm]
  exact each (index + 1) later here

end Each

namespace Heap

/-- The handles are live that a walk with an idle body meets from a visit on: those of the objects
that it visits, and those of the shapes that it goes on through. -/
def LiveFrom (heap : Heap) (ends : Nat → Option β) (remaining count : Nat) (object : Handle) :
    Prop :=
  ∀ visit ∈ visitsFrom (idling ends) remaining ⟨count, object, heap⟩,
    visit.heap.isLive visit.object = true ∧
      ((ends visit.own).isNone = true → visit.shapeLives = true)

/-- The same from the start of the walk. A walk that passes shapes goes the same way, as far as it
goes. -/
def LiveAlong (heap : Heap) (ends : Nat → Option β) (start : Handle) : Prop :=
  LiveFrom heap ends maxChainDepth 0 start

/-! ## 2. The next object -/

variable {config : Config} {requested : Nat} {origin heap : Heap} {ends : Nat → Option β}

/-- A heap on the way of a walk, with the lineage of the heap that the walk started from. -/
structure OnCourse (config : Config) (origin : Heap) (requested : Nat) (heap : Heap) : Prop where
  reached : Reached config requested heap
  few : requested < sizeLimit
  same : SameLineage origin heap

namespace OnCourse

theorem sound (course : OnCourse config origin requested heap) : heap.Sound :=
  ((tracked_of_reached course.reached).sound course.few).1

/-- The first of the calls that are left keeps the heap on course, if what is requested in all of
them does not take the bump offset around. -/
theorem after_call {κ : Type} {out : κ → Outcome Stop Heap (σ × Option β)} {before : κ → Heap}
    {work : κ → List (Operation Handle)} {ends : Nat → Option β} {call : κ} {rest : List κ}
    (each : EachPerforms out before work ends (call :: rest))
    (course : OnCourse config origin requested (before call))
    (few : (runCounting requested (before call) ((call :: rest).flatMap work)).1 < sizeLimit) :
    let left := (runCounting requested (before call) (work call)).1
    OnCourse config origin left (out call).state ∧
      (runCounting left (out call).state (rest.flatMap work)).1 < sizeLimit := by
  have first := each 0 call rfl
  rw [first.state]
  rw [List.flatMap_cons, runCounting_append] at few
  have onward : ∀ operation ∈ rest.flatMap work, operation.rewinds = false :=
    fun operation member => Operation.rewinds_of_tame
      (each.tame operation (List.mem_append_right (work call) member))
  have before := Nat.lt_of_le_of_lt (le_runCounting _ _ onward) few
  exact ⟨⟨reached_run course.reached (work call), before,
    course.same.trans (sameLineage_run course.reached first.tame before)⟩, few⟩

/-- The shape of an object that was live from the start is what it was. -/
theorem shape_eq (course : OnCourse config origin requested heap) (sound : origin.Sound)
    {object : Handle} (live : origin.isLive object = true) :
    (heap.get object ObjectField.shape).answer = (origin.get object ObjectField.shape).answer := by
  rw [course.sound.answer_get, sound.answer_get, course.same.shape live]

/-- So is its prototype, if its shape was live from the start as well. -/
theorem prototype_eq (course : OnCourse config origin requested heap) (sound : origin.Sound)
    {own : σ} {object : Handle} (live : origin.isLive object = true)
    (through : (Visit.mk own object origin).shapeLives = true) :
    (heap.prototype object).answer = (origin.prototype object).answer := by
  have read := sound.answer_get object ObjectField.shape
  have read' := (course.shape_eq sound live).trans read
  rw [answer_prototype, answer_prototype, Report.answer_bind_of_ok read,
    Report.answer_bind_of_ok read']
  rw [Visit.shapeLives, Visit.shape, read] at through
  rcases Bool.or_eq_true_iff.mp through with null | live'
  · rw [answer_get_null heap null, answer_get_null origin null]
  · rw [course.sound.answer_get, sound.answer_get, course.same.proto live']

end OnCourse

/-! ## 3. One call -/

section Calls

variable {body : σ → Handle → HeapAction (σ × Option β)} (visit : Visit σ)

/-- A call that gives no value leads to the prototype that the object has after it. -/
theorem next_of_none {own : σ} {next : Handle}
    (answered : (body visit.own visit.object visit.heap).answer = .ok (own, none))
    (found : ((body visit.own visit.object visit.heap).state.prototype visit.object).answer =
      .ok next) :
    visit.next body = some ⟨own, next, (body visit.own visit.object visit.heap).state⟩ := by
  rcases run : body visit.own visit.object visit.heap with ⟨answer, after, events⟩
  rw [run] at answered found
  cases answered
  rw [next_of_ok run, found]
  rfl

/-- A call that gives a value is the last one. -/
theorem walkFrom_of_some (object : visit.object.isNull = false) {own : σ} {value : β}
    (answered : (body visit.own visit.object visit.heap).answer = .ok (own, some value))
    (start : Handle) (remaining hops : Nat) (last : Handle) :
    visit.next body = none ∧
      (walkFrom start body (remaining + 1) hops last visit.object visit.own visit.heap).answer =
        .ok (own, .broke value visit.object hops) := by
  rcases run : body visit.own visit.object visit.heap with ⟨answer, after, events⟩
  rw [run] at answered
  cases answered
  exact ⟨next_of_broke run, (walkFrom_of_broke object run start remaining hops last).answer⟩

end Calls

/-- The same with shapes, at an object that has one. -/
theorem walkWithShapeFrom_of_some (body : σ → Handle → Handle → HeapAction (σ × Option β))
    (visit : Visit σ) (object : visit.object.isNull = false) {shape : Handle}
    (read : visit.shape.answer = .ok shape) (shaped : shape.isNull = false) {own : σ} {value : β}
    (answered : (body visit.own visit.object shape visit.heap).answer = .ok (own, some value))
    (start : Handle) (remaining hops : Nat) (last : Handle) :
    visitsWithShapeFrom body (remaining + 1) visit = [(visit, shape)] ∧
      (walkWithShapeFrom start body (remaining + 1) hops last visit.object visit.own
        visit.heap).answer = .ok (own, .broke value visit.object hops) := by
  let plain : σ → Handle → HeapAction (σ × Option β) := fun own object => body own object shape
  have answered : (plain visit.own visit.object visit.heap).answer = .ok (own, some value) :=
    answered
  obtain ⟨stop, answer⟩ := walkFrom_of_some visit object answered start remaining hops last
  exact ⟨visitsWithShapeFrom_of_end object read shaped stop remaining,
    (walkWithShapeFrom_last object read shaped stop start remaining hops last).answer.trans answer⟩

section From

variable {remaining hops : Nat} {object : Handle}

theorem answer_idling {ended : Option β} (gives : ends hops = ended) :
    (idling ends hops object heap).answer = .ok (hops + 1, ended) := by
  rw [← gives]
  rfl

theorem next_idling {next : Handle} (on : ends hops = none)
    (found : (origin.prototype object).answer = .ok next) :
    Visit.next (idling ends) ⟨hops, object, origin⟩ = some ⟨hops + 1, next, origin⟩ :=
  next_of_none ⟨hops, object, origin⟩ (answer_idling on) found

theorem LiveFrom.head (live : LiveFrom origin ends (remaining + 1) hops object)
    (some : object.isNull = false) : origin.isLive object = true ∧
      ((ends hops).isNone = true → (Visit.mk hops object origin).shapeLives = true) := by
  obtain ⟨rest, calls⟩ :=
    exists_visitsFrom_eq_cons (idling ends) remaining ⟨hops, object, origin⟩ some
  exact live ⟨hops, object, origin⟩ (calls ▸ List.mem_cons_self)

theorem LiveFrom.next (live : LiveFrom origin ends (remaining + 1) hops object)
    (some : object.isNull = false) (on : ends hops = none) {next : Handle}
    (found : (origin.prototype object).answer = .ok next) :
    LiveFrom origin ends remaining (hops + 1) next := by
  intro visit member
  refine live visit ?_
  rw [visitsFrom_of_next some (next_idling on found)]
  exact List.mem_cons_of_mem _ member

/-! ## 4. Walks without shapes -/

/-- From visits of one object on, two walks visit the same objects and end alike. -/
structure GoAlike (start last : Handle) (remaining hops : Nat)
    (body : σ → Handle → HeapAction (σ × Option β)) (visit : Visit σ)
    (body' : τ → Handle → HeapAction (τ × Option β)) (visit' : Visit τ) : Prop where
  objects : (visitsFrom body remaining visit).map Visit.object =
    (visitsFrom body' remaining visit').map Visit.object
  ending : (walkFrom start body remaining hops last visit.object visit.own visit.heap).EndsAlike
    (walkFrom start body' remaining hops last visit'.object visit'.own visit'.heap)

section GoAlike

variable {start last : Handle} {body : σ → Handle → HeapAction (σ × Option β)}
  {body' : τ → Handle → HeapAction (τ × Option β)} {visit : Visit σ} {visit' : Visit τ}
  (same : visit'.object = visit.object)
include same

theorem goAlike_zero : GoAlike start last 0 hops body visit body' visit' := by
  obtain ⟨_, _, _⟩ := visit'
  obtain rfl : _ = visit.object := same
  refine ⟨rfl, ?_⟩
  unfold walkFrom
  cases visit.object.isNull <;> exact ⟨_, _, _, rfl, rfl⟩

theorem goAlike_of_null (null : visit.object.isNull = true) :
    GoAlike start last (remaining + 1) hops body visit body' visit' := by
  have null' : visit'.object.isNull = true := same ▸ null
  refine ⟨?_, ?_⟩
  · rw [visitsFrom_of_null null, visitsFrom_of_null null']
    rfl
  · unfold walkFrom
    rw [if_pos null, if_pos null']
    exact ⟨_, _, _, rfl, rfl⟩

/-- Both bodies end the walk with one value. -/
theorem goAlike_of_broke (some : visit.object.isNull = false) {own : σ} {own' : τ} {value : β}
    (answered : (body visit.own visit.object visit.heap).answer = .ok (own, .some value))
    (answered' : (body' visit'.own visit'.object visit'.heap).answer = .ok (own', .some value)) :
    GoAlike start last (remaining + 1) hops body visit body' visit' := by
  have some' : visit'.object.isNull = false := same ▸ some
  obtain ⟨stop, answer⟩ := walkFrom_of_some visit some answered start remaining hops last
  obtain ⟨stop', answer'⟩ := walkFrom_of_some visit' some' answered' start remaining hops last
  refine ⟨?_, _, _, _, answer, by rw [answer', same]⟩
  rw [visitsFrom_of_end some stop, visitsFrom_of_end some' stop', List.map_singleton,
    List.map_singleton, same]

/-- Both walks go on, from where they go alike. -/
theorem GoAlike.cons {next : Visit σ} {next' : Visit τ} (some : visit.object.isNull = false)
    (on : visit.next body = .some next) (on' : visit'.next body' = .some next')
    (rest : GoAlike start visit.object remaining (hops + 1) body next body' next') :
    GoAlike start last (remaining + 1) hops body visit body' visit' := by
  have some' : visit'.object.isNull = false := same ▸ some
  refine ⟨?_, rest.ending.of_alike (walkFrom_next some on ..) ?_⟩
  · rw [visitsFrom_of_next some on, visitsFrom_of_next some' on', List.map_cons, List.map_cons,
      same, rest.objects]
  · rw [← same]
    exact walkFrom_next some' on' ..

end GoAlike

/-- From any of its visits on, a walk that stays on course visits what a walk with an idle body
visits in the heap at the start, and ends alike. -/
theorem walkFrom_undisturbed {body : σ → Handle → HeapAction (σ × Option β)}
    {work : Visit σ → List (Operation Handle)} (sound : origin.Sound) (start last : Handle)
    (visit : Visit σ) (course : OnCourse config origin requested visit.heap)
    (live : LiveFrom origin ends remaining hops visit.object)
    (each : EachPerforms (fun call => body call.own call.object call.heap) Visit.heap work
      (fun index => ends (hops + index)) (visitsFrom body remaining visit))
    (few : (runCounting requested visit.heap
      ((visitsFrom body remaining visit).flatMap work)).1 < sizeLimit) :
    GoAlike start last remaining hops body visit (idling ends) ⟨hops, visit.object, origin⟩ := by
  induction remaining generalizing hops last visit requested with
  | zero => exact goAlike_zero rfl
  | succ remaining ih =>
    cases null : visit.object.isNull with
    | true => exact goAlike_of_null rfl null
    | false =>
      obtain ⟨rest, calls⟩ := exists_visitsFrom_eq_cons body remaining visit null
      rw [calls] at each few
      obtain ⟨course', few'⟩ := OnCourse.after_call each course few
      obtain ⟨first, later⟩ := each.cons
      obtain ⟨own, answered⟩ := first.answer
      cases ended : ends hops with
      | some value =>
        rw [ended] at answered
        exact goAlike_of_broke rfl null answered (answer_idling ended)
      | none =>
        rw [ended] at answered
        obtain ⟨met, through⟩ := live.head null
        obtain ⟨next, found⟩ := sound.exists_answer_prototype visit.object
        have on := next_of_none visit answered
          ((course'.prototype_eq sound met (through (ended ▸ rfl))).trans found)
        cases (List.cons.inj (calls.symm.trans (visitsFrom_of_next null on remaining))).2
        exact .cons rfl null on (next_idling ended found)
          (ih visit.object ⟨own, next, _⟩ course' (live.next null ended found) later few')

/-! ## 5. Walks with shapes -/

/-- From visits of one object on, two walks pass the same objects and shapes and end alike. -/
structure PassAlike (start last : Handle) (remaining hops : Nat)
    (body : σ → Handle → Handle → HeapAction (σ × Option β)) (visit : Visit σ)
    (body' : τ → Handle → Handle → HeapAction (τ × Option β)) (visit' : Visit τ) : Prop where
  objects : (visitsWithShapeFrom body remaining visit).map passed =
    (visitsWithShapeFrom body' remaining visit').map passed
  ending : (walkWithShapeFrom start body remaining hops last visit.object visit.own
      visit.heap).EndsAlike
    (walkWithShapeFrom start body' remaining hops last visit'.object visit'.own visit'.heap)

section PassAlike

variable {start last : Handle} {body : σ → Handle → Handle → HeapAction (σ × Option β)}
  {body' : τ → Handle → Handle → HeapAction (τ × Option β)} {visit : Visit σ} {visit' : Visit τ}
  (same : visit'.object = visit.object)
include same

theorem passAlike_zero : PassAlike start last 0 hops body visit body' visit' := by
  obtain ⟨_, _, _⟩ := visit'
  obtain rfl : _ = visit.object := same
  refine ⟨rfl, ?_⟩
  unfold walkWithShapeFrom
  cases visit.object.isNull <;> exact ⟨_, _, _, rfl, rfl⟩

theorem passAlike_of_null (null : visit.object.isNull = true) :
    PassAlike start last (remaining + 1) hops body visit body' visit' := by
  have null' : visit'.object.isNull = true := same ▸ null
  refine ⟨?_, ?_⟩
  · rw [visitsWithShapeFrom_of_null null, visitsWithShapeFrom_of_null null']
    rfl
  · unfold walkWithShapeFrom
    rw [if_pos null, if_pos null']
    exact ⟨_, _, _, rfl, rfl⟩

variable (some : visit.object.isNull = false) {shape : Handle}
  (read : visit.shape.answer = .ok shape) (read' : visit'.shape.answer = .ok shape)
include some read read'

/-- The object has no shape, which ends both walks before their bodies are called. -/
theorem passAlike_of_shapeless (none : shape.isNull = true) :
    PassAlike start last (remaining + 1) hops body visit body' visit' := by
  have some' : visit'.object.isNull = false := same ▸ some
  have shapeless := Visit.shaped_of_null read none
  have shapeless' := Visit.shaped_of_null read' none
  have ended := (walkWithShapeFrom_of_shapeless some shapeless start body remaining hops last).answer
  have ended' :=
    (walkWithShapeFrom_of_shapeless some' shapeless' start body' remaining hops last).answer
  rw [read] at ended
  refine ⟨?_, _, _, _, ended, ended'.trans (by rw [read', same]; rfl)⟩
  rw [visitsWithShapeFrom_of_shapeless shapeless, visitsWithShapeFrom_of_shapeless shapeless']
  rfl

variable (shaped : shape.isNull = false)
include shaped

/-- Both bodies end the walk with one value. -/
theorem passAlike_of_broke {own : σ} {own' : τ} {value : β}
    (answered : (body visit.own visit.object shape visit.heap).answer = .ok (own, .some value))
    (answered' : (body' visit'.own visit'.object shape visit'.heap).answer =
      .ok (own', .some value)) :
    PassAlike start last (remaining + 1) hops body visit body' visit' := by
  have some' : visit'.object.isNull = false := same ▸ some
  obtain ⟨only, answer⟩ :=
    walkWithShapeFrom_of_some body visit some read shaped answered start remaining hops last
  obtain ⟨only', answer'⟩ :=
    walkWithShapeFrom_of_some body' visit' some' read' shaped answered' start remaining hops last
  refine ⟨?_, _, _, _, answer, by rw [answer', same]⟩
  rw [only, only', List.map_singleton, List.map_singleton, passed, passed, same]

/-- Both walks go on, from where they go alike. -/
theorem PassAlike.cons {next : Visit σ} {next' : Visit τ}
    (on : visit.next (fun own object => body own object shape) = .some next)
    (on' : visit'.next (fun own object => body' own object shape) = .some next')
    (rest : PassAlike start visit.object remaining (hops + 1) body next body' next') :
    PassAlike start last (remaining + 1) hops body visit body' visit' := by
  have some' : visit'.object.isNull = false := same ▸ some
  refine ⟨?_, rest.ending.of_alike (walkWithShapeFrom_next some read shaped on ..) ?_⟩
  · rw [visitsWithShapeFrom_of_next some read shaped on,
      visitsWithShapeFrom_of_next some' read' shaped on', List.map_cons, List.map_cons, passed,
      passed, same, rest.objects]
  · rw [← same]
    exact walkWithShapeFrom_next some' read' shaped on' ..

end PassAlike

/-- The same for a walk that passes shapes. It passes the shapes that it would pass, and stops at an
object without one where it would stop. -/
theorem walkWithShapeFrom_undisturbed {body : σ → Handle → Handle → HeapAction (σ × Option β)}
    {work : Visit σ × Handle → List (Operation Handle)} (sound : origin.Sound)
    (start last : Handle) (visit : Visit σ)
    (course : OnCourse config origin requested visit.heap)
    (live : LiveFrom origin ends remaining hops visit.object)
    (each : EachPerforms (fun call => body call.1.own call.1.object call.2 call.1.heap)
      (fun call => call.1.heap) work (fun index => ends (hops + index))
      (visitsWithShapeFrom body remaining visit))
    (few : (runCounting requested visit.heap
      ((visitsWithShapeFrom body remaining visit).flatMap work)).1 < sizeLimit) :
    PassAlike start last remaining hops body visit (idlingWithShape ends)
      ⟨hops, visit.object, origin⟩ := by
  induction remaining generalizing hops last visit requested with
  | zero => exact passAlike_zero rfl
  | succ remaining ih =>
    cases null : visit.object.isNull with
    | true => exact passAlike_of_null rfl null
    | false =>
      obtain ⟨met, through⟩ := live.head null
      have read' : (Visit.mk hops visit.object origin).shape.answer = .ok _ :=
        sound.answer_get visit.object ObjectField.shape
      have read : visit.shape.answer = .ok _ := (course.shape_eq sound met).trans read'
      generalize origin.view.field visit.object ObjectField.shape = shape at read read'
      cases none : shape.isNull with
      | true => exact passAlike_of_shapeless rfl null read read' none
      | false =>
        obtain ⟨rest, calls⟩ :=
          exists_visitsWithShapeFrom_eq_cons body remaining visit null read none
        rw [calls] at each few
        obtain ⟨course', few'⟩ := OnCourse.after_call each course few
        obtain ⟨first, later⟩ := each.cons
        obtain ⟨own, answered⟩ := first.answer
        cases ended : ends hops with
        | some value =>
          rw [ended] at answered
          exact passAlike_of_broke rfl null read read' none answered (answer_idling ended)
        | none =>
          rw [ended] at answered
          obtain ⟨next, found⟩ := sound.exists_answer_prototype visit.object
          let plain : σ → Handle → HeapAction (σ × Option β) := fun own object =>
            body own object shape
          have on : visit.next plain = _ := next_of_none visit answered
            ((course'.prototype_eq sound met (through (ended ▸ rfl))).trans found)
          cases (List.cons.inj (calls.symm.trans
            (visitsWithShapeFrom_of_next null read none on remaining))).2
          exact .cons rfl null read read' none on (next_idling ended found)
            (ih visit.object ⟨own, next, _⟩ course' (live.next null ended found) later few')

end From

/-! ## 6. Both walks -/

theorem onCourse_of_each {κ : Type} {out : κ → Outcome Stop Heap (σ × Option β)}
    {before : κ → Heap} {work : κ → List (Operation Handle)} {calls : List κ}
    (reached : Reached config requested heap) (each : EachPerforms out before work ends calls)
    (few : (runCounting requested heap (calls.flatMap work)).1 < sizeLimit) :
    OnCourse config heap requested heap :=
  have onward : ∀ operation ∈ calls.flatMap work, operation.rewinds = false :=
    fun operation member => Operation.rewinds_of_tame (each.tame operation member)
  ⟨reached, Nat.lt_of_le_of_lt (le_runCounting requested heap onward) few, .refl heap⟩

/-- Whatever tame operations the body of a walk performs at each visit, done or refused, the walk
visits the objects that it would visit in the heap at the start with a body that does nothing, and
ends with the same answer, provided that both bodies end it at the same visits with the same values,
that the handles which the idle walk meets are live, and that the bump offset does not wrap. A walk
that passes shapes passes the same ones as well. -/
theorem walks_undisturbed (reached : Reached config requested heap) {start : Handle}
    (live : heap.LiveAlong ends start) (own : σ) :
    (∀ (body : σ → Handle → HeapAction (σ × Option β)) (work : Visit σ → List (Operation Handle)),
      let calls := visits start own body heap
      EachPerforms (fun call => body call.own call.object call.heap) Visit.heap work ends calls →
        (runCounting requested heap (calls.flatMap work)).1 < sizeLimit →
          walk start (own, []) (logged body) heap = (walk start own body heap).logging calls ∧
            calls.map Visit.object = (visits start 0 (idling ends) heap).map Visit.object ∧
            (walk start own body heap).EndsAlike (walk start 0 (idling ends) heap)) ∧
      ∀ (body : σ → Handle → Handle → HeapAction (σ × Option β))
        (work : Visit σ × Handle → List (Operation Handle)),
        let calls := visitsWithShape start own body heap
        EachPerforms (fun call => body call.1.own call.1.object call.2 call.1.heap)
            (fun call => call.1.heap) work ends calls →
          (runCounting requested heap (calls.flatMap work)).1 < sizeLimit →
            walkWithShape start (own, []) (loggedWithShape body) heap =
                (walkWithShape start own body heap).logging calls ∧
              calls.map passed = (visitsWithShape start 0 (idlingWithShape ends) heap).map passed ∧
              (walkWithShape start own body heap).EndsAlike
                (walkWithShape start 0 (idlingWithShape ends) heap) := by
  have numbered : (fun index => ends (0 + index)) = ends :=
    funext fun index => congrArg ends (Nat.zero_add index)
  constructor
  · intro body work calls each few
    have course := onCourse_of_each reached each few
    rw [← numbered] at each
    have alike := walkFrom_undisturbed course.sound start .null ⟨own, start, heap⟩ course live each
      few
    exact ⟨walk_logged start own body heap, alike.objects, alike.ending⟩
  · intro body work calls each few
    have course := onCourse_of_each reached each few
    rw [← numbered] at each
    have alike := walkWithShapeFrom_undisturbed course.sound start .null ⟨own, start, heap⟩ course
      live each few
    exact ⟨walkWithShape_logged start own body heap, alike.objects, alike.ending⟩

/-- A body that performs operations on each object that it is called at. -/
def performing (work : Handle → List (Operation Handle)) (own : Unit) (object : Handle) :
    HeapAction (Unit × Option β) := fun heap =>
  ⟨.ok (own, none), heap.run (work object), []⟩

theorem performs_performing {work : Handle → List (Operation Handle)} {object : Handle}
    (tame : (work object).all Operation.tame = true) (own : Unit) (before : Heap) :
    (performing work own object before).Performs before (work object) (none : Option β) :=
  ⟨List.all_eq_true.mp tame, rfl, own, rfl⟩

/-- Moves an object, makes an array, and tries to take an object out of a bucket. -/
def churn (object : Handle) : List (Operation Handle) :=
  [.relocate object, .allocElements 1, .unhashShape ⟨1, 0⟩]

/-- An object whose shape has another object as its prototype. -/
def heirSession : List (Operation Handle) :=
  [.allocObject .null 0, .allocShape ⟨1, 0⟩ 0, .allocObject ⟨2, 0⟩ 0]

theorem walks_undisturbed_small :
    let heap := newSmall.run heirSession
    let body : Unit → Handle → HeapAction (Unit × Option Nat) := performing churn
    let shaped (own : Unit) (object _shape : Handle) := body own object
    Reached { arenaCapacity := 1024 } (runCounting 0 newSmall heirSession).1 heap ∧
      heap.LiveAlong (fun _ => (none : Option Nat)) ⟨3, 0⟩ ∧
      ((visits ⟨3, 0⟩ () body heap).map Visit.object = [⟨3, 0⟩, ⟨1, 0⟩] ∧
        ∃ own, (walk ⟨3, 0⟩ () body heap).answer = .ok (own, .ended ⟨1, 0⟩ 2)) ∧
      (visitsWithShape ⟨3, 0⟩ () shaped heap).map passed = [(⟨3, 0⟩, ⟨2, 0⟩)] ∧
        ∃ own, (walkWithShape ⟨3, 0⟩ () shaped heap).answer = .ok (own, .noShape ⟨1, 0⟩ 1) := by
  intro heap body shaped
  let ends : Nat → Option Nat := fun _ => none
  have reached : Reached { arenaCapacity := 1024 } (runCounting 0 newSmall heirSession).1 heap :=
    reached_run (.new new_small) heirSession
  have live : heap.LiveAlong ends ⟨3, 0⟩ := by
    show ∀ visit ∈ _, _ ∧ (_ → _)
    decide +kernel
  -- All that is computed of the heap.
  obtain ⟨few, few', objects, ended, objects', ended'⟩ :
      (runCounting (runCounting 0 newSmall heirSession).1 heap
          ((visits ⟨3, 0⟩ () body heap).flatMap fun call => churn call.object)).1 < sizeLimit ∧
        (runCounting (runCounting 0 newSmall heirSession).1 heap
          ((visitsWithShape ⟨3, 0⟩ () shaped heap).flatMap fun call => churn call.1.object)).1 <
            sizeLimit ∧
        (visits ⟨3, 0⟩ 0 (idling ends) heap).map Visit.object = [⟨3, 0⟩, ⟨1, 0⟩] ∧
        (walk ⟨3, 0⟩ 0 (idling ends) heap).answer.toOption = some (2, .ended ⟨1, 0⟩ 2) ∧
        (visitsWithShape ⟨3, 0⟩ 0 (idlingWithShape ends) heap).map passed = [(⟨3, 0⟩, ⟨2, 0⟩)] ∧
        (walkWithShape ⟨3, 0⟩ 0 (idlingWithShape ends) heap).answer.toOption =
          some (1, .noShape ⟨1, 0⟩ 1) := by
    decide +kernel
  -- The heap is not to be evaluated from here on.
  clear_value heap
  obtain ⟨plain, withShapes⟩ := walks_undisturbed reached live ()
  obtain ⟨-, same, answer, own, count, walked, idled⟩ :=
    plain body (fun call => churn call.object)
      (fun index call _ => performs_performing rfl call.own call.heap) few
  obtain ⟨-, same', answer', own', count', walked', idled'⟩ :=
    withShapes shaped (fun call => churn call.1.object)
      (fun index call _ => performs_performing rfl call.1.own call.1.heap) few'
  rw [idled] at ended
  rw [idled'] at ended'
  cases ended
  cases ended'
  exact ⟨reached, live, ⟨same.trans objects, own, walked⟩, same'.trans objects', own', walked'⟩

end Heap

end HandleHeap
