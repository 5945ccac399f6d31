import HandleHeap.Proofs.Heap.Reachable
import HandleHeap.Proofs.Heap.View
import HandleHeap.Proofs.Pairing.Operations

/-!
# Scripts

A `Script` is what a host does with a heap: operations, and walks along prototype chains that do
more of them at each object. It names records by `ρ`, so that it can be run on heaps whose handles
differ: `Script.run` is told how the names are read, given the handles answered so far. Running it
leaves a log of all that was answered. What a body does when it is called for the n-th time is part
of the script; since a run leaves nothing to chance, a host that decides while it runs does no more.

* `Script.erase`: the script without the moves that are marked as put in.
* `Session.walkFrom_follows`, `Session.walkWithShapeFrom_follows`: its walks are those of the heap.
* `Script.run_keeps`: a script keeps what every operation keeps.
-/

namespace HandleHeap

open HandleHeap.Action Heap

/-! ## 1. Scripts -/

/-- What a host does with a heap. -/
inductive Script (ρ : Type)
  | done
  | perform (operation : Operation ρ) (rest : Script ρ)
  /-- Moves a record. This is put in, and can be left out. -/
  | move (target : ρ) (rest : Script ρ)
  /-- Walks along a prototype chain, with the shape of each object or without it. The body for each
  object is told how many were visited before, and so is what ends the walk. -/
  | walk (shaped : Bool) (start : ρ) (body : Nat → Script ρ) (stops : Nat → Bool)
    (rest : Script ρ)

/-- The script without the moves that were put in. -/
def Script.erase {ρ : Type} : Script ρ → Script ρ
  | done => done
  | perform operation rest => perform operation rest.erase
  | move _ rest => rest.erase
  | walk shaped start body stops rest =>
    walk shaped start (fun visited => (body visited).erase) stops rest.erase

/-! ## 2. Runs -/

/-- The handles in an answer. -/
def Answer.handles : Answer Handle → List Handle
  | .handle h => [h]
  | .handle? h => h.toList
  | .scalar .handle h => [h]
  | .slot (.value v) => v.asObject.toList
  | .slot (.accessor getter setter) => [getter, setter]
  | .slot (.varRef target) => [target]
  | .value v => v.asObject.toList
  | .roots list => list.map Prod.snd
  | _ => []

theorem Answer.handles_map (f : Handle → Handle) (answer : Answer Handle) :
    (answer.map f).handles = answer.handles.map f := by
  cases answer with
  | handle? h => cases h <;> rfl
  | scalar s v => cases s <;> rfl
  | slot s =>
    cases s with
    | value v => cases v <;> rfl
    | _ => rfl
  | value v => cases v <;> rfl
  | roots list => simp [Answer.map, Answer.handles]
  | _ => rfl

/-- The handles that are answered, if anything is. -/
def handlesOf (answer : Except Stop (Answer Handle)) : List Handle :=
  (answer.toOption.map Answer.handles).getD []

/-- What a host sees of one step. -/
inductive Entry
  /-- An operation answered or was refused. It may have been put in. Beside it, the bytes asked for
  since the arena was last rewound, and the offset. -/
  | step (operation : Operation Handle) (answer : Except Stop (Answer Handle)) (inserted : Bool)
    (requested used : Nat)
  /-- The body of a walk was called. -/
  | visit (object : Handle) (shape : Option Handle)
  | walked (ended : Except Stop (ChainWalk Unit))

/-- An entry with its records named otherwise. -/
def Entry.rename (f : Handle → Handle) : Entry → Entry
  | step operation answer inserted requested used =>
    step (operation.map f) (answer.map (Answer.map f)) inserted requested used
  | visit object shape => visit (f object) (shape.map f)
  | walked ended => walked (ended.map (ChainWalk.map f))

/-- Whether an entry is of a move that was put in. -/
def Entry.isInserted : Entry → Bool
  | step _ _ inserted _ _ => inserted
  | _ => false

/-- What is noted of an operation. -/
def Operation.entry (operation : Operation Handle) (heap : Heap) (requested : Nat)
    (inserted : Bool) : Entry :=
  .step operation (operation.perform heap).answer inserted (operation.requested heap requested)
    (operation.perform heap).state.arena.used

/-- A heap in use. -/
structure Session where
  heap : Heap
  /-- The bytes asked for since the arena was last rewound. -/
  requested : Nat
  /-- The handles answered so far. -/
  given : List Handle
  /-- Oldest first. -/
  log : List Entry

namespace Session

/-- A heap that nothing was done with yet. -/
def start (heap : Heap) (requested : Nat) : Session := ⟨heap, requested, [], []⟩

def act (session : Session) (operation : Operation Handle) (inserted : Bool) : Session :=
  let out := operation.perform session.heap
  ⟨out.state, operation.requested session.heap session.requested,
    session.given ++ handlesOf out.answer,
    session.log ++ [operation.entry session.heap session.requested inserted]⟩

def visit (session : Session) (object : Handle) (shape : Option Handle) : Session :=
  { session with
    given := session.given ++ object :: shape.toList, log := session.log ++ [.visit object shape] }

/-- The body of a walk is passed the shape of an object, if it is to be. -/
def shapeFor (heap : Heap) (object : Handle) : (shaped : Bool) → Except Stop (Option Handle)
  | true => (heap.get object ObjectField.shape).answer.map some
  | false => .ok none

/-- Walks on from `current`, at most `remaining` objects. -/
def walkFrom (shaped : Bool) (body : Nat → Session → Session) (stops : Nat → Bool) :
    (remaining hops : Nat) → (last current : Handle) → Session →
      Session × Except Stop (ChainWalk Unit)
  | remaining, hops, last, current, session =>
    if current.isNull then (session, .ok (.ended last hops))
    else match remaining with
      | 0 => (session, .ok (.depthExceeded last hops))
      | remaining + 1 =>
        match shapeFor session.heap current shaped with
        | .error stop => (session, .error stop)
        | .ok shape =>
          if shape.any Handle.isNull then (session, .ok (.noShape current hops))
          else
            let session := body hops (session.visit current shape)
            if stops hops then (session, .ok (.broke () current hops))
            else match (session.heap.prototype current).answer with
              | .error stop => (session, .error stop)
              | .ok next => walkFrom shaped body stops remaining (hops + 1) current next session

/-- Walks along a prototype chain. -/
def walk (session : Session) (shaped : Bool) (start : Handle) (body : Nat → Session → Session)
    (stops : Nat → Bool) : Session :=
  let walked := walkFrom shaped body stops maxChainDepth 0 .null start session
  { walked.1 with log := walked.1.log ++ [.walked walked.2] }

end Session

namespace Script

variable {ρ : Type}

/-- Runs a script, with names that stand for the handles answered so far. -/
def run (read : List Handle → ρ → Handle) : Script ρ → Session → Session
  | done, session => session
  | perform operation rest, session =>
    rest.run read (session.act (operation.map (read session.given)) false)
  | move target rest, session =>
    rest.run read (session.act (.relocate (read session.given target)) true)
  | walk shaped start body stops rest, session =>
    rest.run read (session.walk shaped (read session.given start)
      (fun visited => (body visited).run read) stops)

end Script

/-! ## 3. Walks of a script -/

namespace Session

variable {body : Nat → Session → Session} {stops : Nat → Bool}

/-- A body as a walk of the heap calls it. It keeps what it notes beside the heap. -/
def calling (body : Nat → Session → Session) (stops : Nat → Bool) (own : Session × Nat)
    (object : Handle) (shape : Option Handle) : HeapAction ((Session × Nat) × Option Unit) :=
  fun heap =>
    let after := body own.2 ({ own.1 with heap }.visit object shape)
    ⟨.ok ((after, own.2 + 1), if stops own.2 then some () else none), after.heap, []⟩

/-- A walk comes to the same as one of the session. -/
def Follows (out : Outcome Stop Heap ((Session × Nat) × ChainWalk Unit))
    (seen : Session × Except Stop (ChainWalk Unit)) : Prop :=
  out.answer.map Prod.snd = seen.2 ∧ out.state = seen.1.heap ∧
    ∀ own ended, out.answer = .ok (own, ended) → own.1 = seen.1

theorem Follows.of_ok {out : Outcome Stop Heap ((Session × Nat) × ChainWalk Unit)}
    (own : Session × Nat) {ended : ChainWalk Unit} (answer : out.answer = .ok (own, ended))
    (state : out.state = own.1.heap) : Follows out (own.1, .ok ended) := by
  refine ⟨by rw [answer]; rfl, state, fun own' ended' same => ?_⟩
  cases answer.symm.trans same
  rfl

theorem Follows.of_error {out : Outcome Stop Heap ((Session × Nat) × ChainWalk Unit)}
    {session : Session} {stop : Stop} (answer : out.answer = .error stop)
    (state : out.state = session.heap) : Follows out (session, .error stop) := by
  refine ⟨by rw [answer]; rfl, state, fun own' ended' same => ?_⟩
  cases answer.symm.trans same

/-- The walk of the heap with such a body is the walk of the session. -/
theorem walkFrom_follows (start : Handle) (remaining hops : Nat) (last current : Handle)
    (session : Session) :
    Follows (Heap.walkFrom start (fun own object => calling body stops own object none) remaining
        hops last current (session, hops) session.heap)
      (walkFrom false body stops remaining hops last current session) := by
  induction remaining generalizing hops last current session with
  | zero =>
    unfold Heap.walkFrom walkFrom
    cases current.isNull with
    | true => exact .of_ok (session, hops) rfl rfl
    | false => exact .of_ok (session, hops) rfl rfl
  | succ remaining ih =>
    unfold Heap.walkFrom walkFrom
    cases current.isNull with
    | true => exact .of_ok (session, hops) rfl rfl
    | false =>
      let after := body hops (session.visit current none)
      have called : calling body stops (session, hops) current none session.heap = ⟨.ok
        ((after, hops + 1), if stops hops then some () else none), after.heap, []⟩ := rfl
      simp only [shapeFor, Bool.false_eq_true, if_false, Option.any_none]
      rw [bind_apply_of_ok called]
      cases stopped : stops hops with
      | true => exact .of_ok (after, hops + 1) rfl rfl
      | false =>
        simp only [Bool.false_eq_true, if_false]
        rcases found : after.heap.prototype current with ⟨stop | next, events⟩
        · rw [bind_apply_of_error (look_apply (Heap.prototype · current) found)]
          exact .of_error rfl rfl
        · rw [bind_apply_of_ok (look_apply (Heap.prototype · current) found)]
          exact ih (hops + 1) current next after

/-- The walk of the heap that passes shapes is the walk of the session that does. -/
theorem walkWithShapeFrom_follows (start : Handle) (remaining hops : Nat) (last current : Handle)
    (session : Session) :
    Follows (Heap.walkWithShapeFrom start
        (fun own object shape => calling body stops own object (some shape)) remaining hops last
        current (session, hops) session.heap)
      (walkFrom true body stops remaining hops last current session) := by
  induction remaining generalizing hops last current session with
  | zero =>
    unfold Heap.walkWithShapeFrom walkFrom
    cases current.isNull with
    | true => exact .of_ok (session, hops) rfl rfl
    | false => exact .of_ok (session, hops) rfl rfl
  | succ remaining ih =>
    unfold Heap.walkWithShapeFrom walkFrom
    cases current.isNull with
    | true => exact .of_ok (session, hops) rfl rfl
    | false =>
      simp only [Bool.false_eq_true, if_false]
      rcases shaped : session.heap.get current ObjectField.shape with ⟨stop | shape, told⟩
      · rw [bind_apply_of_error (look_apply (Heap.get · current ObjectField.shape) shaped)]
        simp only [shapeFor, shaped]
        exact .of_error rfl rfl
      rw [bind_apply_of_ok (look_apply (Heap.get · current ObjectField.shape) shaped)]
      simp only [shapeFor, shaped, Except.map, Option.any_some]
      by_cases null : shape.isNull = true
      · rw [if_pos null, if_pos null]
        exact .of_ok (session, hops) rfl rfl
      rw [if_neg null, if_neg null]
      let after := body hops (session.visit current (some shape))
      have called : calling body stops (session, hops) current (some shape) session.heap = ⟨.ok
        ((after, hops + 1), if stops hops then some () else none), after.heap, []⟩ := rfl
      rw [bind_apply_of_ok called]
      cases stopped : stops hops with
      | true => exact .of_ok (after, hops + 1) rfl rfl
      | false =>
        simp only [Bool.false_eq_true, if_false]
        rw [answer_prototype]
        rcases first : after.heap.get current ObjectField.shape with ⟨stop | shape', told'⟩
        · rw [bind_apply_of_error (look_apply (Heap.get · current ObjectField.shape) first),
            Report.error_bind]
          exact .of_error rfl rfl
        rw [bind_apply_of_ok (look_apply (Heap.get · current ObjectField.shape) first),
          Report.ok_bind]
        rcases second : after.heap.get shape' ShapeField.proto with ⟨stop | next, told''⟩
        · rw [bind_apply_of_error (look_apply (Heap.get · shape' ShapeField.proto) second)]
          exact .of_error rfl rfl
        · rw [bind_apply_of_ok (look_apply (Heap.get · shape' ShapeField.proto) second)]
          exact ih (hops + 1) current next after

end Session

/-! ## 4. What a run keeps -/

section Keeps

variable {P : Session → Prop}

/-- A walk keeps what its body keeps, if it does not matter that the calls are noted. -/
theorem Session.walkFrom_keeps (shaped : Bool) {body : Nat → Session → Session}
    (stops : Nat → Bool)
    (noted : ∀ {session} object shape, P session → P (session.visit object shape))
    (called : ∀ visited {session}, P session → P (body visited session))
    (remaining hops : Nat) (last current : Handle) {session : Session} (kept : P session) :
    P (walkFrom shaped body stops remaining hops last current session).1 := by
  induction remaining generalizing hops last current session with
  | zero =>
    unfold walkFrom
    split <;> exact kept
  | succ remaining ih =>
    unfold walkFrom
    split
    · exact kept
    simp only
    cases shapeFor session.heap current shaped with
    | error stop => exact kept
    | ok shape =>
      simp only
      split
      · exact kept
      have after : P (body hops (session.visit current shape)) :=
        called hops (noted current shape kept)
      split
      · exact after
      · split
        · exact after
        · exact ih _ _ _ after

/-- A script keeps what every operation keeps, if it does not matter what is noted of its walks. -/
theorem Script.run_keeps {ρ : Type} {read : List Handle → ρ → Handle}
    (acted : ∀ {session} operation inserted, P session → P (session.act operation inserted))
    (noted : ∀ {session} object shape, P session → P (session.visit object shape))
    (walked : ∀ {session} ended, P session →
      P { session with log := session.log ++ [.walked ended] })
    (script : Script ρ) {session : Session} (kept : P session) :
    P (script.run read session) := by
  induction script generalizing session with
  | done => exact kept
  | perform operation rest ih => exact ih (acted _ _ kept)
  | move target rest ih => exact ih (acted _ _ kept)
  | walk shaped start body stops rest called ih =>
    exact ih (walked _ (Session.walkFrom_keeps shaped stops noted called _ _ _ _ kept))

end Keeps

namespace Session

/-- Nothing that was logged is taken back. -/
theorem log_walkFrom {shaped : Bool} {body : Nat → Session → Session} {stops : Nat → Bool}
    (longer : ∀ visited session, session.log <+: (body visited session).log)
    (remaining hops : Nat) (last current : Handle) (session : Session) :
    session.log <+: (walkFrom shaped body stops remaining hops last current session).1.log :=
  walkFrom_keeps (P := fun later => session.log <+: later.log) shaped stops
    (fun _ _ before => before.trans (List.prefix_append ..))
    (fun visited _ before => before.trans (longer visited _)) _ _ _ _ List.prefix_rfl

theorem log_walk (session : Session) (shaped : Bool) (start : Handle)
    (body : Nat → Session → Session) (stops : Nat → Bool) :
    (walkFrom shaped body stops maxChainDepth 0 .null start session).1.log <+:
      (session.walk shaped start body stops).log := List.prefix_append ..

theorem log_run {ρ : Type} (read : List Handle → ρ → Handle) (script : Script ρ)
    (session : Session) : session.log <+: (script.run read session).log :=
  script.run_keeps (P := fun later => session.log <+: later.log)
    (fun _ _ before => before.trans (List.prefix_append ..))
    (fun _ _ before => before.trans (List.prefix_append ..))
    (fun _ before => before.trans (List.prefix_append ..)) List.prefix_rfl

/-- What every operation keeps, every script keeps, and every walk of it. -/
theorem related_run {related : Heap → Heap → Prop} [Chained related] {ρ : Type}
    (keeps : ∀ operation : Operation Handle, operation.perform.Keeps related)
    (read : List Handle → ρ → Handle) (script : Script ρ) (session : Session) :
    related session.heap (script.run read session).heap :=
  script.run_keeps (P := fun later => related session.heap later.heap)
    (fun operation _ before => Chained.trans before ((keeps operation).step _))
    (fun _ _ before => before) (fun _ before => before) (Chained.refl _)

end Session

end HandleHeap
