import HandleHeap.Proofs.Action
import HandleHeap.Heap.PrototypeChain

/-!
# The visits of a walk

A walk along a prototype chain calls its body at one object after the other. `Heap.visits` lists
the calls: the object of each, and the state and the heap that the body starts from. The next
object is read in the heap that the body left.

* `walk_logged`: the visits are what a body lists that keeps a list of its calls.
* `walkFrom_at`: from any of its visits on, a walk is a walk that starts there.
* `walk_at_last`: a walk ends at an object that its body leaves without a prototype.
-/

namespace HandleHeap

open HandleHeap.Action

/-! ## 1. Outcomes but for their events -/

/-- Outcomes that answer alike and leave the same state. The events may differ. -/
structure Outcome.Alike {ε σ α : Type} (a b : Outcome ε σ α) : Prop where
  answer : a.answer = b.answer
  state : a.state = b.state

theorem Outcome.Alike.refl {ε σ α : Type} (out : Outcome ε σ α) : out.Alike out := ⟨rfl, rfl⟩

theorem Outcome.Alike.symm {ε σ α : Type} {a b : Outcome ε σ α} (h : a.Alike b) : b.Alike a :=
  ⟨h.answer.symm, h.state.symm⟩

theorem Outcome.Alike.trans {ε σ α : Type} {a b c : Outcome ε σ α} (first : a.Alike b)
    (second : b.Alike c) : a.Alike c :=
  ⟨first.answer.trans second.answer, first.state.trans second.state⟩

/-- What was done before matters to the rest of the work only by what it answered and left. -/
theorem Action.bind_alike {ε σ α β : Type} {first : Action ε σ α} {next : α → Action ε σ β}
    {state state' : σ} {a : α} {events : List Event} (h : first state = ⟨.ok a, state', events⟩) :
    ((first >>= next) state).Alike (next a state') := by
  rw [bind_apply_of_ok h]
  exact ⟨rfl, rfl⟩

/-- Work that carries a list besides its own state. -/
def Outcome.logging {σ α κ : Type} (calls : List κ) (out : Outcome Stop Heap (σ × α)) :
    Outcome Stop Heap ((σ × List κ) × α) :=
  ⟨out.answer.map fun (own, a) => ((own, calls), a), out.state, out.events⟩

section Logging

variable {σ α β κ : Type} {heap : Heap} {calls later : List κ}

/-- Work that carries a list goes on as the same work without it, if it starts so. -/
theorem Action.bind_logging {first : HeapAction (σ × α)} {first' : HeapAction ((σ × List κ) × α)}
    {next : σ × α → HeapAction (σ × β)} {next' : (σ × List κ) × α → HeapAction ((σ × List κ) × β)}
    (same : first' heap = (first heap).logging calls)
    (rest : ∀ own a after events, first heap = ⟨.ok (own, a), after, events⟩ →
      next' ((own, calls), a) after = (next (own, a) after).logging later) :
    (first' >>= next') heap = ((first >>= next) heap).logging later := by
  rcases run : first heap with ⟨stop | ⟨own, a⟩, after, events⟩
  · rw [run] at same
    rw [bind_apply_of_error run, bind_apply_of_error same]
    rfl
  · rw [run] at same
    rw [bind_apply_of_ok run, bind_apply_of_ok same, rest own a after events run]
    rfl

/-- What is only looked at does not matter to the list. -/
theorem Action.look_logging (report : Heap → Report Stop α) {next : α → HeapAction (σ × β)}
    {next' : α → HeapAction ((σ × List κ) × β)}
    (rest : ∀ a, (report heap).answer = .ok a → next' a heap = (next a heap).logging later) :
    (look report >>= next') heap = ((look report >>= next) heap).logging later := by
  rcases read : report heap with ⟨stop | a, told⟩
  · rw [bind_apply_of_error (look_apply report read), bind_apply_of_error (look_apply report read)]
    rfl
  · rw [bind_apply_of_ok (look_apply report read), bind_apply_of_ok (look_apply report read),
      rest a (congrArg Report.answer read)]
    rfl

end Logging

/-! ## 2. Visits -/

/-- A call of the body of a walk: its object, and what the body starts from. -/
structure Visit (σ : Type) where
  own : σ
  object : Handle
  heap : Heap

variable {σ β : Type}

/-- Where a walk goes on after a visit: with what the body left, at the prototype that the object
has then. Nowhere, if the walk ends with the body. -/
def Visit.next (body : σ → Handle → HeapAction (σ × Option β)) (visit : Visit σ) :
    Option (Visit σ) :=
  match body visit.own visit.object visit.heap with
  | ⟨.ok (own, none), after, _⟩ =>
    (after.prototype visit.object).answer.toOption.map fun object => ⟨own, object, after⟩
  | _ => none

namespace Heap

/-- At most `remaining` visits of a walk, from a given one on. There is none at a null-like
handle. -/
def visitsFrom (body : σ → Handle → HeapAction (σ × Option β)) : Nat → Visit σ → List (Visit σ)
  | 0, _ => []
  | remaining + 1, visit =>
    if visit.object.isNull then []
    else visit :: match visit.next body with
      | some next => visitsFrom body remaining next
      | none => []

/-- The calls that a walk makes of its body. -/
def visits (start : Handle) (own : σ) (body : σ → Handle → HeapAction (σ × Option β))
    (heap : Heap) : List (Visit σ) :=
  visitsFrom body maxChainDepth ⟨own, start, heap⟩

/-- The body of a walk, with a list of its calls. -/
def logged (body : σ → Handle → HeapAction (σ × Option β)) :
    σ × List (Visit σ) → Handle → HeapAction ((σ × List (Visit σ)) × Option β) :=
  fun (own, calls) object heap => (body own object heap).logging (calls ++ [⟨own, object, heap⟩])

section Visits

variable {body : σ → Handle → HeapAction (σ × Option β)}

theorem visitsFrom_of_null {visit : Visit σ} (null : visit.object.isNull = true)
    (remaining : Nat) : visitsFrom body remaining visit = [] := by
  cases remaining with
  | zero => rfl
  | succ remaining => rw [visitsFrom, if_pos null]

theorem visitsFrom_of_next {visit next : Visit σ} (object : visit.object.isNull = false)
    (on : visit.next body = some next) (remaining : Nat) :
    visitsFrom body (remaining + 1) visit = visit :: visitsFrom body remaining next := by
  simp only [visitsFrom, object, Bool.false_eq_true, if_false, on]

theorem visitsFrom_of_end {visit : Visit σ} (object : visit.object.isNull = false)
    (stop : visit.next body = none) (remaining : Nat) :
    visitsFrom body (remaining + 1) visit = [visit] := by
  simp only [visitsFrom, object, Bool.false_eq_true, if_false, stop]

theorem exists_visitsFrom_eq_cons (body : σ → Handle → HeapAction (σ × Option β))
    (remaining : Nat) (visit : Visit σ) (object : visit.object.isNull = false) :
    ∃ rest, visitsFrom body (remaining + 1) visit = visit :: rest := by
  cases on : visit.next body with
  | none => exact ⟨[], visitsFrom_of_end object on remaining⟩
  | some next => exact ⟨_, visitsFrom_of_next object on remaining⟩

/-- No more visits are made than are left. -/
theorem length_visitsFrom_le (remaining : Nat) (visit : Visit σ) :
    (visitsFrom body remaining visit).length ≤ remaining := by
  induction remaining generalizing visit with
  | zero => exact Nat.le_refl 0
  | succ remaining ih =>
    cases null : visit.object.isNull with
    | true =>
      rw [visitsFrom_of_null null]
      exact Nat.zero_le _
    | false =>
      cases on : visit.next body with
      | none =>
        rw [visitsFrom_of_end null on]
        exact Nat.succ_le_succ (Nat.zero_le _)
      | some next =>
        rw [visitsFrom_of_next null on]
        exact Nat.succ_le_succ (ih next)

/-- What a visit leads to when the body lets the walk go on. -/
theorem next_of_ok {visit : Visit σ} {own : σ} {after : Heap} {events : List Event}
    (run : body visit.own visit.object visit.heap = ⟨.ok (own, none), after, events⟩) :
    visit.next body = (after.prototype visit.object).answer.toOption.map (⟨own, ·, after⟩) := by
  simp only [Visit.next, run]

theorem next_eq_some {visit next : Visit σ} (on : visit.next body = some next) :
    ∃ events read, body visit.own visit.object visit.heap =
        ⟨.ok (next.own, none), next.heap, events⟩ ∧
      next.heap.prototype visit.object = ⟨.ok next.object, read⟩ := by
  unfold Visit.next at on
  split at on
  · next own after events run =>
    rcases found : after.prototype visit.object with ⟨stop | object, read⟩ <;> rw [found] at on <;>
      cases on
    exact ⟨events, read, run, found⟩
  · cases on

theorem next_of_broke {visit : Visit σ} {own : σ} {value : β} {after : Heap} {events : List Event}
    (run : body visit.own visit.object visit.heap = ⟨.ok (own, some value), after, events⟩) :
    visit.next body = none := by
  simp only [Visit.next, run]

end Visits

/-! ## 3. Visits are calls -/

theorem walkFrom_logged (start : Handle) (body : σ → Handle → HeapAction (σ × Option β))
    (remaining hops : Nat) (last : Handle) (visit : Visit σ) (calls : List (Visit σ)) :
    walkFrom start (logged body) remaining hops last visit.object (visit.own, calls) visit.heap =
      (walkFrom start body remaining hops last visit.object visit.own visit.heap).logging
        (calls ++ visitsFrom body remaining visit) := by
  induction remaining generalizing hops last visit calls with
  | zero =>
    rw [visitsFrom, List.append_nil]
    unfold walkFrom
    cases visit.object.isNull <;> rfl
  | succ remaining ih =>
    cases null : visit.object.isNull with
    | true =>
      rw [visitsFrom_of_null null, List.append_nil]
      unfold walkFrom
      rw [if_pos null, if_pos null]
      rfl
    | false =>
      unfold walkFrom
      simp only [null, Bool.false_eq_true, if_false]
      refine bind_logging rfl fun own ended after told run => ?_
      cases ended with
      | some value =>
        rw [visitsFrom_of_end null (next_of_broke run)]
        rfl
      | none =>
        refine look_logging (·.prototype visit.object) fun object found => ?_
        have on : visit.next body = some ⟨own, object, after⟩ := by
          rw [next_of_ok run, found]
          rfl
        have rest := ih (hops + 1) visit.object ⟨own, object, after⟩ (calls ++ [visit])
        rw [List.append_assoc, List.singleton_append] at rest
        rw [visitsFrom_of_next null on]
        exact rest

/-- A body that lists its calls lists the visits, and the walk is otherwise the same. -/
theorem walk_logged (start : Handle) (own : σ) (body : σ → Handle → HeapAction (σ × Option β))
    (heap : Heap) : walk start (own, []) (logged body) heap =
      (walk start own body heap).logging (visits start own body heap) :=
  walkFrom_logged start body maxChainDepth 0 .null ⟨own, start, heap⟩ []

/-! ## 4. A walk from one of its visits on -/

section At

variable {body : σ → Handle → HeapAction (σ × Option β)}

theorem walkFrom_next {visit next : Visit σ} (object : visit.object.isNull = false)
    (on : visit.next body = some next) (start : Handle) (remaining hops : Nat) (last : Handle) :
    (walkFrom start body (remaining + 1) hops last visit.object visit.own visit.heap).Alike
      (walkFrom start body remaining (hops + 1) visit.object next.object next.own next.heap) := by
  obtain ⟨events, read, run, found⟩ := next_eq_some on
  conv => arg 1; unfold walkFrom
  simp only [object, Bool.false_eq_true, if_false]
  refine (bind_alike run).trans ?_
  exact bind_alike (look_apply (Heap.prototype · visit.object) found)

theorem walkFrom_of_broke {visit : Visit σ} {own : σ} {value : β} {after : Heap}
    {events : List Event} (object : visit.object.isNull = false)
    (run : body visit.own visit.object visit.heap = ⟨.ok (own, some value), after, events⟩)
    (start : Handle) (remaining hops : Nat) (last : Handle) :
    (walkFrom start body (remaining + 1) hops last visit.object visit.own visit.heap).Alike
      ⟨.ok (own, .broke value visit.object hops), after, []⟩ := by
  unfold walkFrom
  simp only [object, Bool.false_eq_true, if_false]
  exact bind_alike run

/-- From any of its visits on, a walk is a walk that starts there. -/
theorem walkFrom_at {remaining : Nat} {first visit : Visit σ} {before after : List (Visit σ)}
    (h : visitsFrom body remaining first = before ++ visit :: after) (start : Handle) (hops : Nat)
    (last : Handle) :
    ∃ left last', remaining = before.length + (left + 1) ∧ visit.object.isNull = false ∧
      visitsFrom body (left + 1) visit = visit :: after ∧
      (walkFrom start body remaining hops last first.object first.own first.heap).Alike
        (walkFrom start body (left + 1) (hops + before.length) last' visit.object visit.own
          visit.heap) := by
  induction before generalizing remaining first hops last with
  | nil =>
    cases remaining with
    | zero => cases h
    | succ left =>
      cases null : first.object.isNull with
      | true =>
        rw [visitsFrom_of_null null] at h
        cases h
      | false =>
        have same : first = visit := by
          rw [visitsFrom, null] at h
          exact (List.cons.inj h).1
        subst same
        exact ⟨left, last, (Nat.zero_add _).symm, null, h, .refl _⟩
  | cons head before ih =>
    cases remaining with
    | zero => cases h
    | succ remaining =>
      cases null : first.object.isNull with
      | true =>
        rw [visitsFrom_of_null null] at h
        cases h
      | false =>
        cases on : first.next body with
        | none =>
          rw [visitsFrom_of_end null on] at h
          exact absurd (List.cons.inj h).2.symm (List.append_ne_nil_of_right_ne_nil _ (by simp))
        | some next =>
          rw [visitsFrom_of_next null on] at h
          obtain ⟨left, last', all, object, rest, alike⟩ :=
            ih (List.cons.inj h).2 (hops + 1) first.object
          have count : hops + 1 + before.length = hops + (head :: before).length := by
            rw [List.length_cons, Nat.add_assoc, Nat.add_comm 1]
          have all' : remaining + 1 = (head :: before).length + (left + 1) := by
            rw [all, List.length_cons, Nat.add_right_comm]
          exact ⟨left, last', all', object, rest, count ▸ (walkFrom_next null on ..).trans alike⟩

/-- A walk ends at an object that its body leaves without a prototype. -/
theorem walk_at_last {start : Handle} {own : σ} {heap : Heap} {visit : Visit σ}
    {before after : List (Visit σ)} (h : visits start own body heap = before ++ visit :: after)
    {own' : σ} {left : Heap} {events : List Event}
    (run : body visit.own visit.object visit.heap = ⟨.ok (own', none), left, events⟩)
    {object : Handle} (found : (left.prototype visit.object).answer = .ok object)
    (null : object.isNull = true) :
    after = [] ∧ (walk start own body heap).Alike
      ⟨.ok (own', .ended visit.object (before.length + 1)), left, []⟩ := by
  obtain ⟨remaining, last, -, live, rest, alike⟩ := walkFrom_at h start 0 .null
  have on : visit.next body = some ⟨own', object, left⟩ := by
    rw [next_of_ok run, found]
    rfl
  rw [visitsFrom_of_next live on, visitsFrom_of_null null] at rest
  refine ⟨(List.cons.inj rest).2.symm, alike.trans ((walkFrom_next live on ..).trans ?_)⟩
  unfold walkFrom
  rw [if_pos null, Nat.zero_add]
  exact ⟨rfl, rfl⟩

end At

end Heap

end HandleHeap
