import HandleHeap.Proofs.Chain.Visits
import HandleHeap.Proofs.Heap.Reachable
import HandleHeap.Proofs.Heap.View
import Mathlib.Data.List.TakeWhile

/-!
# Walks with shapes and without

The walk that passes shapes and the plain walk read the next object in different ways. With a body
that ignores the shape they run in lockstep all the same, until an object is to be visited that
has no shape then. There the walk with shapes stops, where the plain walk goes on.

* `visitsWithShape`, `walkWithShape_logged`: the calls of the walk that passes shapes.
* `follow_alike`: reading a prototype through the shape is reading the prototype.
* `lockstep`: the walk that passes shapes is the plain walk, cut short.
* `walks_agree`: the two walks, in terms of the calls of the plain one.
-/

namespace HandleHeap

open HandleHeap.Action

variable {σ β : Type}

/-! ## 1. Shapes -/

/-- The shape that the object of a visit has when it is visited. -/
def Visit.shape (visit : Visit σ) : Report Stop Handle :=
  visit.heap.get visit.object ObjectField.shape

/-- Whether there is such a shape. A null-like handle is none. -/
def Visit.shaped (visit : Visit σ) : Bool := visit.shape.answer.toOption.any fun shape =>
  !shape.isNull

theorem Visit.shaped_iff {visit : Visit σ} :
    visit.shaped = true ↔ ∃ shape, visit.shape.answer = .ok shape ∧ shape.isNull = false := by
  unfold shaped
  cases visit.shape.answer with
  | error stop =>
    constructor
    · intro h
      cases h
    · rintro ⟨_, h, -⟩
      cases h
  | ok shape =>
    show (!shape.isNull) = true ↔ _
    rw [Bool.not_eq_true']
    exact ⟨fun h => ⟨shape, rfl, h⟩, fun ⟨_, same, h⟩ => Except.ok.inj same ▸ h⟩

theorem Visit.shaped_of_null {visit : Visit σ} {shape : Handle}
    (read : visit.shape.answer = .ok shape) (null : shape.isNull = true) :
    visit.shaped = false := by
  rw [shaped, read]
  show (!shape.isNull) = false
  rw [null, Bool.not_true]

theorem Visit.shaped_of_error {visit : Visit σ} {stop : Stop}
    (read : visit.shape.answer = .error stop) : visit.shaped = false := by
  rw [shaped, read]
  rfl

namespace Heap

/-- Reading a prototype through the shape is reading the prototype, whatever is done with it. -/
theorem follow_alike {α : Type} (object : Handle) (rest : Handle → HeapAction α) (heap : Heap) :
    ((look (·.get object ObjectField.shape) >>= fun shape =>
      look (·.get shape ShapeField.proto) >>= rest) heap).Alike
      ((look (·.prototype object) >>= rest) heap) := by
  have same := heap.answer_prototype object
  rcases shaped : heap.get object ObjectField.shape with ⟨stop | shape, events⟩
  · rw [shaped, Report.error_bind] at same
    rcases found : heap.prototype object with ⟨answer, told⟩
    rw [found] at same
    cases same
    rw [look_bind_of_error (Heap.get · object ObjectField.shape) shaped,
      look_bind_of_error (Heap.prototype · object) found]
    exact ⟨rfl, rfl⟩
  · rw [shaped, Report.ok_bind] at same
    refine (bind_alike (look_apply (Heap.get · object ObjectField.shape) shaped)).trans ?_
    rcases next : heap.get shape ShapeField.proto with ⟨answer, told⟩
    rcases found : heap.prototype object with ⟨answer', told'⟩
    rw [next, found] at same
    cases same
    cases answer with
    | error stop =>
      rw [look_bind_of_error (Heap.get · shape ShapeField.proto) next,
        look_bind_of_error (Heap.prototype · object) found]
      exact ⟨rfl, rfl⟩
    | ok next' =>
      exact (bind_alike (look_apply (Heap.get · shape ShapeField.proto) next)).trans
        (bind_alike (look_apply (Heap.prototype · object) found)).symm

/-! ## 2. Visits with shapes -/

/-- At most `remaining` visits of a walk that passes shapes, each with the shape it passes. -/
def visitsWithShapeFrom (body : σ → Handle → Handle → HeapAction (σ × Option β)) :
    Nat → Visit σ → List (Visit σ × Handle)
  | 0, _ => []
  | remaining + 1, visit =>
    if visit.object.isNull then []
    else match visit.shape.answer with
      | .error _ => []
      | .ok shape =>
        if shape.isNull then []
        else (visit, shape) :: match visit.next fun own object => body own object shape with
          | some next => visitsWithShapeFrom body remaining next
          | none => []

/-- The calls that a walk makes of a body that is passed shapes. -/
def visitsWithShape (start : Handle) (own : σ)
    (body : σ → Handle → Handle → HeapAction (σ × Option β)) (heap : Heap) :
    List (Visit σ × Handle) :=
  visitsWithShapeFrom body maxChainDepth ⟨own, start, heap⟩

/-- The body of a walk that passes shapes, with a list of its calls. -/
def loggedWithShape (body : σ → Handle → Handle → HeapAction (σ × Option β)) :
    σ × List (Visit σ × Handle) → Handle → Handle →
      HeapAction ((σ × List (Visit σ × Handle)) × Option β) :=
  fun (own, calls) object shape heap =>
    (body own object shape heap).logging (calls ++ [(⟨own, object, heap⟩, shape)])

section Calls

variable {body : σ → Handle → Handle → HeapAction (σ × Option β)}

theorem visitsWithShapeFrom_of_null {visit : Visit σ} (null : visit.object.isNull = true)
    (remaining : Nat) : visitsWithShapeFrom body remaining visit = [] := by
  cases remaining with
  | zero => rfl
  | succ remaining => rw [visitsWithShapeFrom, if_pos null]

theorem visitsWithShapeFrom_of_shapeless {visit : Visit σ} (shapeless : visit.shaped = false)
    (remaining : Nat) : visitsWithShapeFrom body remaining visit = [] := by
  cases remaining with
  | zero => rfl
  | succ remaining =>
    unfold Visit.shaped at shapeless
    unfold visitsWithShapeFrom
    cases read : visit.shape.answer with
    | error stop =>
      simp only
      exact ite_self _
    | ok shape =>
      rw [read] at shapeless
      have null : shape.isNull = true := by simpa [Except.toOption] using shapeless
      simp only [null, if_true]
      exact ite_self _

theorem visitsWithShapeFrom_of_next {visit next : Visit σ} (object : visit.object.isNull = false)
    {shape : Handle} (read : visit.shape.answer = .ok shape) (some : shape.isNull = false)
    (on : visit.next (fun own object => body own object shape) = .some next) (remaining : Nat) :
    visitsWithShapeFrom body (remaining + 1) visit =
      (visit, shape) :: visitsWithShapeFrom body remaining next := by
  simp only [visitsWithShapeFrom, object, Bool.false_eq_true, if_false, read, some, on]

theorem visitsWithShapeFrom_of_end {visit : Visit σ} (object : visit.object.isNull = false)
    {shape : Handle} (read : visit.shape.answer = .ok shape) (some : shape.isNull = false)
    (stop : visit.next (fun own object => body own object shape) = none) (remaining : Nat) :
    visitsWithShapeFrom body (remaining + 1) visit = [(visit, shape)] := by
  simp only [visitsWithShapeFrom, object, Bool.false_eq_true, if_false, read, some, stop]

theorem exists_visitsWithShapeFrom_eq_cons
    (body : σ → Handle → Handle → HeapAction (σ × Option β)) (remaining : Nat) (visit : Visit σ)
    (object : visit.object.isNull = false) {shape : Handle}
    (read : visit.shape.answer = .ok shape) (shaped : shape.isNull = false) :
    ∃ rest, visitsWithShapeFrom body (remaining + 1) visit = (visit, shape) :: rest := by
  cases on : visit.next fun own object => body own object shape with
  | none => exact ⟨[], visitsWithShapeFrom_of_end object read shaped on remaining⟩
  | some next => exact ⟨_, visitsWithShapeFrom_of_next object read shaped on remaining⟩

/-- A walk passes the shape that an object has when it is visited. -/
theorem shape_of_mem_visitsWithShapeFrom {remaining : Nat} {first : Visit σ}
    {call : Visit σ × Handle} (member : call ∈ visitsWithShapeFrom body remaining first) :
    call.1.shape.answer = .ok call.2 := by
  induction remaining generalizing first with
  | zero => cases member
  | succ remaining ih =>
    cases null : first.object.isNull with
    | true =>
      rw [visitsWithShapeFrom_of_null null] at member
      cases member
    | false =>
      cases shaped : first.shaped with
      | false =>
        rw [visitsWithShapeFrom_of_shapeless shaped] at member
        cases member
      | true =>
        obtain ⟨shape, read, some⟩ := Visit.shaped_iff.mp shaped
        cases on : first.next (fun own object => body own object shape) with
        | none =>
          rw [visitsWithShapeFrom_of_end null read some on, List.mem_singleton] at member
          exact member ▸ read
        | some next =>
          rw [visitsWithShapeFrom_of_next null read some on, List.mem_cons] at member
          rcases member with rfl | member
          · exact read
          · exact ih member

end Calls

/-! ## 3. Visits with shapes are calls -/

theorem walkWithShapeFrom_logged (start : Handle)
    (body : σ → Handle → Handle → HeapAction (σ × Option β)) (remaining hops : Nat)
    (last : Handle) (visit : Visit σ) (calls : List (Visit σ × Handle)) :
    walkWithShapeFrom start (loggedWithShape body) remaining hops last visit.object
        (visit.own, calls) visit.heap =
      (walkWithShapeFrom start body remaining hops last visit.object visit.own
        visit.heap).logging (calls ++ visitsWithShapeFrom body remaining visit) := by
  induction remaining generalizing hops last visit calls with
  | zero =>
    rw [visitsWithShapeFrom, List.append_nil]
    unfold walkWithShapeFrom
    cases visit.object.isNull <;> rfl
  | succ remaining ih =>
    cases null : visit.object.isNull with
    | true =>
      rw [visitsWithShapeFrom_of_null null, List.append_nil]
      unfold walkWithShapeFrom
      rw [if_pos null, if_pos null]
      rfl
    | false =>
      unfold walkWithShapeFrom
      simp only [null, Bool.false_eq_true, if_false]
      refine look_logging (·.get visit.object ObjectField.shape) fun shape read => ?_
      have read : visit.shape.answer = .ok shape := read
      by_cases none : shape.isNull = true
      · rw [visitsWithShapeFrom_of_shapeless (Visit.shaped_of_null read none), List.append_nil,
          if_pos none, if_pos none]
        rfl
      rw [if_neg none, if_neg none]
      have some : shape.isNull = false := Bool.eq_false_iff.mpr none
      refine bind_logging rfl fun own ended after events run => ?_
      cases ended with
      | some value =>
        have stop : (visit.next fun own object => body own object shape) = .none :=
          next_of_broke run
        rw [visitsWithShapeFrom_of_end null read some stop]
        rfl
      | none =>
        refine look_logging (·.get visit.object ObjectField.shape) fun shape' first => ?_
        refine look_logging (·.get shape' ShapeField.proto) fun object second => ?_
        have found : (after.prototype visit.object).answer = .ok object :=
          (after.answer_prototype visit.object).trans ((Report.answer_bind_of_ok first).trans second)
        have on : (visit.next fun own object => body own object shape) =
            .some ⟨own, object, after⟩ := by
          rw [next_of_ok run, found]
          rfl
        have rest := ih (hops + 1) visit.object ⟨own, object, after⟩ (calls ++ [(visit, shape)])
        rw [List.append_assoc, List.singleton_append] at rest
        rw [visitsWithShapeFrom_of_next null read some on]
        exact rest

/-- A body that lists its calls lists the visits, and the walk is otherwise the same. -/
theorem walkWithShape_logged (start : Handle) (own : σ)
    (body : σ → Handle → Handle → HeapAction (σ × Option β)) (heap : Heap) :
    walkWithShape start (own, []) (loggedWithShape body) heap =
      (walkWithShape start own body heap).logging (visitsWithShape start own body heap) :=
  walkWithShapeFrom_logged start body maxChainDepth 0 .null ⟨own, start, heap⟩ []

/-! ## 4. Lockstep -/

/-- How a walk ends that stops at the first of its visits to an object without a shape, after as
many links as objects were visited before it. -/
def cutShort (plain : Outcome Stop Heap (σ × ChainWalk β)) (hops : Nat) (calls : List (Visit σ)) :
    Outcome Stop Heap (σ × ChainWalk β) :=
  match calls.dropWhile Visit.shaped with
  | [] => plain
  | visit :: _ =>
    ⟨visit.shape.answer.map fun _ =>
      (visit.own, .noShape visit.object (hops + (calls.takeWhile Visit.shaped).length)),
      visit.heap, []⟩

section CutShort

variable {plain plain' : Outcome Stop Heap (σ × ChainWalk β)} {visit : Visit σ}

theorem cutShort_of_shaped (hops : Nat) {calls : List (Visit σ)}
    (shaped : ∀ visit ∈ calls, visit.shaped = true) : cutShort plain hops calls = plain := by
  rw [cutShort, List.dropWhile_eq_nil_iff.mpr shaped]

theorem cutShort_shapeless (shapeless : visit.shaped = false) (hops : Nat)
    (rest : List (Visit σ)) : cutShort plain hops (visit :: rest) =
      ⟨visit.shape.answer.map fun _ => (visit.own, .noShape visit.object hops),
        visit.heap, []⟩ := by
  have not : ¬ visit.shaped = true := Bool.eq_false_iff.mp shapeless
  rw [cutShort, List.dropWhile_cons_of_neg not, List.takeWhile_cons_of_neg not]
  rfl

theorem cutShort_shaped (shaped : visit.shaped = true) (hops : Nat) (rest : List (Visit σ)) :
    cutShort plain hops (visit :: rest) = cutShort plain (hops + 1) rest := by
  rw [cutShort, cutShort, List.dropWhile_cons_of_pos shaped, List.takeWhile_cons_of_pos shaped,
    List.length_cons, Nat.add_assoc, Nat.add_comm 1]

theorem cutShort_alike (h : plain.Alike plain') (hops : Nat) (calls : List (Visit σ)) :
    (cutShort plain hops calls).Alike (cutShort plain' hops calls) := by
  unfold cutShort
  split
  · exact h
  · exact .refl _

end CutShort

variable {body : σ → Handle → HeapAction (σ × Option β)}

/-- At an object without a shape the walk stops before its body. -/
theorem walkWithShapeFrom_of_shapeless {visit : Visit σ} (object : visit.object.isNull = false)
    (shapeless : visit.shaped = false) (start : Handle)
    (body : σ → Handle → Handle → HeapAction (σ × Option β)) (remaining hops : Nat)
    (last : Handle) :
    (walkWithShapeFrom start body (remaining + 1) hops last visit.object visit.own
      visit.heap).Alike
        ⟨visit.shape.answer.map fun _ => (visit.own, .noShape visit.object hops),
          visit.heap, []⟩ := by
  unfold walkWithShapeFrom
  simp only [object, Bool.false_eq_true, if_false]
  unfold Visit.shaped Visit.shape at shapeless
  unfold Visit.shape
  rcases read : visit.heap.get visit.object ObjectField.shape with ⟨stop | shape, told⟩
  · rw [bind_apply_of_error (look_apply (Heap.get · visit.object ObjectField.shape) read)]
    exact ⟨rfl, rfl⟩
  · rw [read] at shapeless
    have none : shape.isNull = true := by simpa [Except.toOption] using shapeless
    refine (bind_alike (look_apply (Heap.get · visit.object ObjectField.shape) read)).trans ?_
    rw [if_pos none]
    exact ⟨rfl, rfl⟩

section Shaped

variable {visit : Visit σ} {shape : Handle}
  {body : σ → Handle → Handle → HeapAction (σ × Option β)}

theorem exists_get_shape (read : visit.shape.answer = .ok shape) :
    ∃ told, visit.heap.get visit.object ObjectField.shape = ⟨.ok shape, told⟩ := by
  unfold Visit.shape at read
  rcases found : visit.heap.get visit.object ObjectField.shape with ⟨answer, told⟩
  rw [found] at read
  exact ⟨told, congrArg (Report.mk · told) read⟩

/-- At an object with a shape the walk goes where the plain walk goes. -/
theorem walkWithShapeFrom_next {next : Visit σ} (object : visit.object.isNull = false)
    (read : visit.shape.answer = .ok shape) (some : shape.isNull = false)
    (on : visit.next (fun own object => body own object shape) = .some next) (start : Handle)
    (remaining hops : Nat) (last : Handle) :
    (walkWithShapeFrom start body (remaining + 1) hops last visit.object visit.own
      visit.heap).Alike
      (walkWithShapeFrom start body remaining (hops + 1) visit.object next.object next.own
        next.heap) := by
  obtain ⟨told, reads⟩ := exists_get_shape read
  obtain ⟨events, told', run, found⟩ := next_eq_some on
  conv => arg 1; unfold walkWithShapeFrom
  simp only [object, Bool.false_eq_true, if_false]
  refine (bind_alike (look_apply (Heap.get · visit.object ObjectField.shape) reads)).trans ?_
  simp only [some, Bool.false_eq_true, if_false]
  refine (bind_alike run).trans ((follow_alike visit.object _ next.heap).trans ?_)
  exact bind_alike (look_apply (Heap.prototype · visit.object) found)

/-- Where the plain walk ends with the body at an object with a shape, so does the other. -/
theorem walkWithShapeFrom_last (object : visit.object.isNull = false)
    (read : visit.shape.answer = .ok shape) (some : shape.isNull = false)
    (stop : visit.next (fun own object => body own object shape) = none) (start : Handle)
    (remaining hops : Nat) (last : Handle) :
    (walkWithShapeFrom start body (remaining + 1) hops last visit.object visit.own
      visit.heap).Alike
      (walkFrom start (fun own object => body own object shape) (remaining + 1) hops last
        visit.object visit.own visit.heap) := by
  obtain ⟨told, reads⟩ := exists_get_shape read
  unfold walkWithShapeFrom walkFrom
  simp only [object, Bool.false_eq_true, if_false]
  refine (bind_alike (look_apply (Heap.get · visit.object ObjectField.shape) reads)).trans ?_
  simp only [some, Bool.false_eq_true, if_false]
  rcases run : body visit.own visit.object shape visit.heap with
    ⟨stop | ⟨own, _ | value⟩, after, events⟩
  · rw [bind_apply_of_error run, bind_apply_of_error run]
    exact .refl _
  · have on : (visit.next fun own object => body own object shape) = _ := next_of_ok run
    rw [bind_apply_of_ok run, bind_apply_of_ok run]
    simp only
    have follows := follow_alike visit.object (fun next =>
      walkWithShapeFrom start body remaining (hops + 1) visit.object next own) after
    rcases found : after.prototype visit.object with ⟨stop | next, told'⟩
    · rw [look_bind_of_error (Heap.prototype · visit.object) found] at follows ⊢
      exact ⟨follows.answer, follows.state⟩
    · rw [stop, found] at on
      cases on
  · rw [bind_apply_of_ok run, bind_apply_of_ok run]
    exact ⟨rfl, rfl⟩

end Shaped

/-- From any visit on, the walk that passes shapes to a body that ignores them is the plain walk,
cut short. -/
theorem lockstep (start : Handle) (body : σ → Handle → HeapAction (σ × Option β))
    (remaining hops : Nat) (last : Handle) (visit : Visit σ) :
    (visitsWithShapeFrom (fun own object _ => body own object) remaining visit).map Prod.fst =
        (visitsFrom body remaining visit).takeWhile Visit.shaped ∧
      (walkWithShapeFrom start (fun own object _ => body own object) remaining hops last
        visit.object visit.own visit.heap).Alike
        (cutShort (walkFrom start body remaining hops last visit.object visit.own visit.heap) hops
          (visitsFrom body remaining visit)) := by
  induction remaining generalizing hops last visit with
  | zero =>
    refine ⟨rfl, ?_⟩
    unfold walkWithShapeFrom walkFrom
    exact .refl _
  | succ remaining ih =>
    cases null : visit.object.isNull with
    | true =>
      rw [visitsWithShapeFrom_of_null null, visitsFrom_of_null null]
      refine ⟨rfl, ?_⟩
      unfold walkWithShapeFrom walkFrom
      rw [if_pos null, if_pos null]
      exact .refl _
    | false =>
      cases shaped : visit.shaped with
      | false =>
        obtain ⟨rest, calls⟩ := exists_visitsFrom_eq_cons body remaining visit null
        have not : ¬ visit.shaped = true := Bool.eq_false_iff.mp shaped
        rw [visitsWithShapeFrom_of_shapeless shaped, calls, List.takeWhile_cons_of_neg not,
          cutShort_shapeless shaped]
        exact ⟨rfl, walkWithShapeFrom_of_shapeless null shaped ..⟩
      | true =>
        obtain ⟨shape, read, some⟩ := Visit.shaped_iff.mp shaped
        cases on : visit.next body with
        | none =>
          rw [visitsWithShapeFrom_of_end null read some on, visitsFrom_of_end null on,
            List.takeWhile_cons_of_pos shaped, cutShort_shaped shaped]
          exact ⟨rfl, walkWithShapeFrom_last null read some on ..⟩
        | some next =>
          obtain ⟨calls, alike⟩ := ih (hops + 1) visit.object next
          rw [visitsWithShapeFrom_of_next null read some on, visitsFrom_of_next null on,
            List.takeWhile_cons_of_pos shaped, cutShort_shaped shaped]
          refine ⟨congrArg (visit :: ·) calls, ?_⟩
          exact ((walkWithShapeFrom_next null read some on ..).trans alike).trans
            (cutShort_alike (walkFrom_next null on ..).symm ..)

/-! ## 5. The two walks -/

/-- The first of its visits to an object without a shape cuts the walk short. -/
theorem cutShort_at {plain : Outcome Stop Heap (σ × ChainWalk β)} {visit : Visit σ}
    {before : List (Visit σ)} (shaped : ∀ earlier ∈ before, earlier.shaped = true)
    (shapeless : visit.shaped = false) (after : List (Visit σ)) :
    cutShort plain 0 (before ++ visit :: after) =
      ⟨visit.shape.answer.map fun _ => (visit.own, .noShape visit.object before.length),
        visit.heap, []⟩ := by
  have not : ¬ visit.shaped = true := Bool.eq_false_iff.mp shapeless
  rw [cutShort, List.dropWhile_append_of_pos shaped, List.takeWhile_append_of_pos shaped,
    List.dropWhile_cons_of_neg not, List.takeWhile_cons_of_neg not, List.append_nil, Nat.zero_add]

/-- A body that ignores shapes is called by both walks at the same objects in the same heaps, and
both end alike, unless an object has no shape when it is to be visited. There the walk that passes
shapes ends, having called its body for the objects before. An object that loses its shape to the
body ends both walks as the last of its chain. The calls of a walk are those that a body lists. -/
theorem walks_agree (start : Handle) (own : σ) (body : σ → Handle → HeapAction (σ × Option β))
    (heap : Heap) :
    let unshaped : σ → Handle → Handle → HeapAction (σ × Option β) := fun own object _ =>
      body own object
    let plain := walk start own body heap
    let shaped := walkWithShape start own unshaped heap
    let calls := visits start own body heap
    let shapedCalls := (visitsWithShape start own unshaped heap).map Prod.fst
    (walk start (own, []) (logged body) heap = plain.logging calls ∧
        ∀ body' : σ → Handle → Handle → HeapAction (σ × Option β),
          walkWithShape start (own, []) (loggedWithShape body') heap =
              (walkWithShape start own body' heap).logging
                (visitsWithShape start own body' heap) ∧
            ∀ call ∈ visitsWithShape start own body' heap, call.1.shape.answer = .ok call.2) ∧
      ((∀ visit ∈ calls, visit.shaped = true) → shapedCalls = calls ∧ shaped.Alike plain) ∧
      (∀ before visit after, calls = before ++ visit :: after →
        (∀ earlier ∈ before, earlier.shaped = true) →
          (∀ shape, visit.shape.answer = .ok shape → shape.isNull = true → shapedCalls = before ∧
            shaped.Alike
              ⟨.ok (visit.own, .noShape visit.object before.length), visit.heap, []⟩) ∧
          ∀ stop, visit.shape.answer = .error stop → shapedCalls = before ∧
            shaped.Alike ⟨.error stop, visit.heap, []⟩) ∧
      ∀ before visit after, calls = before ++ visit :: after →
        ∀ own' left events, body visit.own visit.object visit.heap =
            ⟨.ok (own', none), left, events⟩ →
          ∀ shape, (left.get visit.object ObjectField.shape).answer = .ok shape →
            shape.isNull = true →
              after = [] ∧
                plain.Alike ⟨.ok (own', .ended visit.object (before.length + 1)), left, []⟩ ∧
                ((∀ visit ∈ calls, visit.shaped = true) → shaped.Alike
                  ⟨.ok (own', .ended visit.object (before.length + 1)), left, []⟩) := by
  intro unshaped plain shaped calls shapedCalls
  have together : shapedCalls = calls.takeWhile Visit.shaped ∧
      shaped.Alike (cutShort plain 0 calls) :=
    lockstep start body maxChainDepth 0 .null ⟨own, start, heap⟩
  have agree (all : ∀ visit ∈ calls, visit.shaped = true) :
      shapedCalls = calls ∧ shaped.Alike plain := by
    rw [List.takeWhile_eq_self_iff.mpr all, cutShort_of_shaped 0 all] at together
    exact together
  have cut {before after : List (Visit σ)} {visit : Visit σ}
      (split : calls = before ++ visit :: after)
      (all : ∀ earlier ∈ before, earlier.shaped = true) (shapeless : visit.shaped = false) :
      shapedCalls = before ∧ shaped.Alike
        ⟨visit.shape.answer.map fun _ => (visit.own, .noShape visit.object before.length),
          visit.heap, []⟩ := by
    have not : ¬ visit.shaped = true := Bool.eq_false_iff.mp shapeless
    rw [split, List.takeWhile_append_of_pos all, List.takeWhile_cons_of_neg not, List.append_nil,
      cutShort_at all shapeless] at together
    exact together
  refine ⟨⟨walk_logged start own body heap, fun body' => ⟨walkWithShape_logged start own body' heap,
    fun call member => shape_of_mem_visitsWithShapeFrom member⟩⟩, agree,
    fun before visit after split all => ⟨fun shape read null => ?_, fun stop read => ?_⟩,
    fun before visit after split own' left events run shape read null => ?_⟩
  · have short := cut split all (Visit.shaped_of_null read null)
    rw [read] at short
    exact short
  · have short := cut split all (Visit.shaped_of_error read)
    rw [read] at short
    exact short
  · have none : (left.prototype visit.object).answer = .ok .null := by
      rw [answer_prototype]
      rcases gotten : left.get visit.object ObjectField.shape with ⟨answer, told⟩
      rw [gotten] at read
      cases read
      exact answer_get_null left null ShapeField.proto
    obtain ⟨last, ended⟩ := walk_at_last split run none rfl
    exact ⟨last, ended, fun all => (agree all).2.trans ended⟩

/-- A chain of three objects, the last of them without a shape. A walk with shapes stops there
after two links. -/
theorem walks_agree_small :
    let heap := newSmall.run [.allocObject .null 0, .allocShape ⟨1, 0⟩ 0, .allocObject ⟨2, 0⟩ 0,
      .allocShape ⟨3, 0⟩ 0, .allocObject ⟨4, 0⟩ 0]
    let body : Unit → Handle → HeapAction (Unit × Option Unit) := fun own _ => pure (own, none)
    (walkWithShape ⟨5, 0⟩ () (fun own object _ => body own object) heap).Alike
      ⟨.ok ((), .noShape ⟨1, 0⟩ 2), heap, []⟩ := by
  intro heap body
  have on (heap : Heap) {object : Handle} (next : Handle)
      (found : (heap.prototype object).answer.toOption = some next) :
      Visit.next body ⟨(), object, heap⟩ = some ⟨(), next, heap⟩ := by
    rw [next_of_ok (Action.pure_apply _ _), found]
    rfl
  -- All that is computed of the heap.
  obtain ⟨first, second, third, has, has', read⟩ :
      (heap.prototype ⟨5, 0⟩).answer.toOption = some ⟨3, 0⟩ ∧
        (heap.prototype ⟨3, 0⟩).answer.toOption = some ⟨1, 0⟩ ∧
        (heap.prototype ⟨1, 0⟩).answer.toOption = some .null ∧
        (⟨(), ⟨5, 0⟩, heap⟩ : Visit Unit).shaped = true ∧
        (⟨(), ⟨3, 0⟩, heap⟩ : Visit Unit).shaped = true ∧
        (⟨(), ⟨1, 0⟩, heap⟩ : Visit Unit).shape.answer.toOption = some .null := by
    decide +kernel
  have calls : visits ⟨5, 0⟩ () body heap =
      [⟨(), ⟨5, 0⟩, heap⟩, ⟨(), ⟨3, 0⟩, heap⟩] ++ ⟨(), ⟨1, 0⟩, heap⟩ :: [] := by
    rw [visits, maxChainDepth, visitsFrom_of_next rfl (on heap ⟨3, 0⟩ first),
      visitsFrom_of_next rfl (on heap ⟨1, 0⟩ second),
      visitsFrom_of_next rfl (on heap .null third), visitsFrom_of_null rfl]
    rfl
  have shaped (visit : Visit Unit)
      (member : visit ∈ [⟨(), ⟨5, 0⟩, heap⟩, ⟨(), ⟨3, 0⟩, heap⟩]) : visit.shaped = true := by
    simp only [List.mem_cons, List.not_mem_nil, or_false] at member
    rcases member with rfl | rfl
    · exact has
    · exact has'
  let last : Visit Unit := ⟨(), ⟨1, 0⟩, heap⟩
  have shapeless : ∃ shape, last.shape.answer = .ok shape ∧ shape.isNull = true := by
    have read : last.shape.answer.toOption = some .null := read
    cases answer : last.shape.answer <;> rw [answer] at read <;> cases read
    exact ⟨_, rfl, rfl⟩
  obtain ⟨shape, read, null⟩ := shapeless
  -- The heap is not to be evaluated from here on.
  clear_value heap
  exact (((walks_agree ⟨5, 0⟩ () body heap).2.2.1 _ last _ calls shaped).1 shape read null).2

end Heap

end HandleHeap
