import HandleHeap.Proofs.Heap.Invariants

/-!
# Doing the same on two heaps

A `Pairing` compares two heaps on which the same is done, with the records of the first named
otherwise. `Parallel same f g` says that two actions, started on sound heaps that are related, end
alike: both with answers for which `same` holds, and then on sound heaps, or both with the same
error; and on heaps that are related again.

Two heaps need not use up their memory alike. Where a pairing is not in `lockstep`, nothing is said
of a run in which either side was refused for lack of space.

There is one rule for each way in which actions are put together: `Parallel.pure`,
`Parallel.bind`, `Parallel.look`, `Parallel.attempt_bind`.
-/

namespace HandleHeap

open HandleHeap.Action

/-- Both answered, and alike, or both ended for the same reason. -/
inductive Alike {α β : Type} (same : α → β → Prop) : Except Stop α → Except Stop β → Prop
  | ok {a : α} {b : β} : same a b → Alike same (.ok a) (.ok b)
  | error (stop : Stop) : Alike same (.error stop) (.error stop)

theorem Alike.mono {α β : Type} {same same' : α → β → Prop} {x : Except Stop α} {y : Except Stop β}
    (alike : Alike same x y) (imp : ∀ {a b}, same a b → same' a b) : Alike same' x y := by
  cases alike with
  | ok h => exact .ok (imp h)
  | error stop => exact .error stop

theorem Alike.eq {α : Type} {x y : Except Stop α} (alike : Alike (fun u v => u = v) x y) :
    x = y := by
  cases alike with
  | ok same => rw [same]
  | error stop => rfl

/-- Refused because the arena has not enough space left. -/
def Stop.Exhausted (stop : Stop) : Prop :=
  ∃ requested offset capacity,
    stop = .refused (.outOfMemory (.exhausted requested offset capacity))

/-- Whether an outcome is a refusal for lack of space. -/
def Outcome.Exhausted {σ α : Type} (out : Outcome Stop σ α) : Prop :=
  ∃ stop : Stop, out.answer = .error stop ∧ stop.Exhausted

/-- A way to compare two heaps on which the same is done. -/
structure Pairing where
  /-- What a record of the second heap is called on the first. -/
  rename : Handle → Handle
  related : Heap → Heap → Prop
  /-- Whether the arenas of both heaps answer requests alike. -/
  lockstep : Prop
  /-- The fields that are alike on both heaps. -/
  readable : {layout : Layout} → {scalar : Scalar} → Field layout scalar → Prop
  /-- The fields that may be set. -/
  writable : {layout : Layout} → {scalar : Scalar} → Field layout scalar → Prop
  /-- The records, as the second heap calls them, that may be ended by themselves. -/
  spare : Handle → Prop

namespace Pairing

variable {M : Pairing} {α α' β β' : Type}

/-- Two outcomes are alike. -/
inductive Agree (M : Pairing) (same : α → β → Prop) :
    Outcome Stop Heap α → Outcome Stop Heap β → Prop
  | ok {a : α} {b : β} {s t : Heap} {events events' : List Event} : same a b → M.related s t →
      s.Sound → t.Sound → Agree M same ⟨.ok a, s, events⟩ ⟨.ok b, t, events'⟩
  | error {stop : Stop} {s t : Heap} {events events' : List Event} : M.related s t →
      Agree M same ⟨.error stop, s, events⟩ ⟨.error stop, t, events'⟩
  | spent {x : Outcome Stop Heap α} {y : Outcome Stop Heap β} : ¬ M.lockstep →
      x.Exhausted ∨ y.Exhausted → Agree M same x y

/-- Two actions end alike on sound heaps that are related. -/
def Parallel (M : Pairing) (same : α → β → Prop) (f : HeapAction α) (g : HeapAction β) : Prop :=
  ∀ a b : Heap, a.Sound → b.Sound → M.related a b → M.Agree same (f a) (g b)

/-- Two reports are alike on sound heaps that are related. -/
def Looks (M : Pairing) (same : α → β → Prop) (r : Heap → Report Stop α)
    (r' : Heap → Report Stop β) : Prop :=
  ∀ a b : Heap, a.Sound → b.Sound → M.related a b → Alike same (r a).answer (r' b).answer

variable {same : α → β → Prop} {same' : α' → β' → Prop}

/-! ## 1. Reports -/

theorem Looks.pure {a : α} {b : β} (h : same a b) :
    M.Looks same (fun _ => pure a) (fun _ => pure b) := fun _ _ _ _ _ => .ok h

theorem Looks.bind {r : Heap → Report Stop α} {r' : Heap → Report Stop β}
    {next : Heap → α → Report Stop α'} {next' : Heap → β → Report Stop β'}
    (first : M.Looks same r r')
    (rest : ∀ u v, same u v → M.Looks same' (next · u) (next' · v)) :
    M.Looks same' (fun heap => r heap >>= next heap) (fun heap => r' heap >>= next' heap) := by
  intro a b sound sound' related
  have alike := first a b sound sound' related
  rcases run : r a with ⟨answer, events⟩
  rcases run' : r' b with ⟨answer', events'⟩
  rw [run, run'] at alike
  cases alike with
  | ok h =>
    simp only [run, run', Report.ok_bind]
    exact rest _ _ h a b sound sound' related
  | error stop =>
    simp only [run, run', Report.error_bind]
    exact .error stop

theorem Looks.withDefault {r : Heap → Report Stop α} {r' : Heap → Report Stop β} {d : α} {d' : β}
    (h : M.Looks same r r') (default : same d d') :
    M.Looks same (fun heap => (r heap).withDefault d) (fun heap => (r' heap).withDefault d') := by
  intro a b sound sound' related
  have alike := h a b sound sound' related
  rcases run : r a with ⟨answer, events⟩
  rcases run' : r' b with ⟨answer', events'⟩
  rw [run, run'] at alike
  simp only [run, run', Report.withDefault]
  cases alike with
  | ok h => exact .ok h
  | error stop =>
    cases stop with
    | refused e => exact .ok default
    | fault f => exact .error _

theorem Looks.mono {same'' : α → β → Prop} {r : Heap → Report Stop α} {r' : Heap → Report Stop β}
    (h : M.Looks same r r') (imp : ∀ {a b}, same a b → same'' a b) : M.Looks same'' r r' :=
  fun a b sound sound' related => (h a b sound sound' related).mono imp

/-! ## 2. Actions -/

/-- Events do not matter. -/
theorem Agree.events {x : Outcome Stop Heap α} {y : Outcome Stop Heap β} (h : M.Agree same x y)
    (events events' : List Event) :
    M.Agree same ⟨x.answer, x.state, events⟩ ⟨y.answer, y.state, events'⟩ := by
  cases h with
  | ok h related s t => exact .ok h related s t
  | error related => exact .error related
  | spent free exhausted => exact .spent free exhausted

/-- Heaps that are alike in their arenas too stay related, whatever is answered. -/
theorem Agree.related {x : Outcome Stop Heap α} {y : Outcome Stop Heap β} (h : M.Agree same x y)
    (lockstep : M.lockstep) : M.related x.state y.state := by
  cases h with
  | ok _ related => exact related
  | error related => exact related
  | spent free => exact absurd lockstep free

/-- Unless space ran out, the answers are alike and the heaps are related. -/
theorem Agree.alike {x : Outcome Stop Heap α} {y : Outcome Stop Heap β} (h : M.Agree same x y) :
    (¬ M.lockstep ∧ (x.Exhausted ∨ y.Exhausted)) ∨
      (Alike same x.answer y.answer ∧ M.related x.state y.state) := by
  cases h with
  | ok h related => exact .inr ⟨.ok h, related⟩
  | error related => exact .inr ⟨.error _, related⟩
  | spent free exhausted => exact .inl ⟨free, exhausted⟩

/-- Outcomes with the same error, on related heaps. -/
theorem Agree.of_error {x : Outcome Stop Heap α} {y : Outcome Stop Heap β} {stop : Stop}
    (left : x.answer = .error stop) (right : y.answer = .error stop)
    (related : M.related x.state y.state) : M.Agree same x y := by
  obtain ⟨answer, s, events⟩ := x
  obtain ⟨answer', t, events'⟩ := y
  cases left
  cases right
  exact .error related

/-- Outcomes with answers that are alike, on related heaps. -/
theorem Agree.of_ok {x : Outcome Stop Heap α} {y : Outcome Stop Heap β} {a : α} {b : β}
    (left : x.answer = .ok a) (right : y.answer = .ok b) (h : same a b)
    (related : M.related x.state y.state) (sound : x.state.Sound) (sound' : y.state.Sound) :
    M.Agree same x y := by
  obtain ⟨answer, s, events⟩ := x
  obtain ⟨answer', t, events'⟩ := y
  cases left
  cases right
  exact .ok h related sound sound'

theorem Parallel.mono {same'' : α → β → Prop} {f : HeapAction α} {g : HeapAction β}
    (h : M.Parallel same f g) (imp : ∀ {a b}, same a b → same'' a b) :
    M.Parallel same'' f g := by
  intro a b sound sound' related
  have agree := h a b sound sound' related
  rcases run : f a with ⟨answer, s, events⟩
  rcases run' : g b with ⟨answer', t, events'⟩
  rw [run, run'] at agree
  cases agree with
  | ok h related' s t => exact .ok (imp h) related' s t
  | error related' => exact .error related'
  | spent free exhausted => exact .spent free exhausted

theorem Parallel.pure {a : α} {b : β} (h : same a b) :
    M.Parallel same (pure a) (pure b) := fun _ _ sound sound' related => .ok h related sound sound'

theorem Parallel.refuse (e : HeapError) :
    M.Parallel same (Action.refuse e) (Action.refuse e) := fun _ _ _ _ related => .error related

theorem Parallel.fault (f : Fault) :
    M.Parallel same (Action.fault f) (Action.fault f) := fun _ _ _ _ related => .error related

theorem Parallel.emit (event event' : Event) :
    M.Parallel Eq (Action.emit event) (Action.emit event') :=
  fun _ _ sound sound' related => .ok rfl related sound sound'

theorem Parallel.look {r : Heap → Report Stop α} {r' : Heap → Report Stop β}
    (h : M.Looks same r r') : M.Parallel same (Action.look r) (Action.look r') := by
  intro a b sound sound' related
  have alike := h a b sound sound' related
  rcases run : r a with ⟨answer, events⟩
  rcases run' : r' b with ⟨answer', events'⟩
  rw [run, run'] at alike
  simp only [Action.look, run, run']
  cases alike with
  | ok h => exact .ok h related sound sound'
  | error stop => exact .error related

/-- An error of the first part is the error of the whole. -/
theorem exhausted_bind {f : HeapAction α} {next : α → HeapAction α'} {heap : Heap}
    (h : (f heap).Exhausted) : ((f >>= next) heap).Exhausted := by
  obtain ⟨stop, answer, exhausted⟩ := h
  rcases run : f heap with ⟨_ | a, after, events⟩ <;> rw [run] at answer
  · rw [bind_apply_of_error run]
    exact ⟨stop, congrArg _ (Except.error.inj answer), exhausted⟩
  · cases answer

theorem Parallel.bind {f : HeapAction α} {g : HeapAction β} {next : α → HeapAction α'}
    {next' : β → HeapAction β'} (first : M.Parallel same f g)
    (rest : ∀ u v, same u v → M.Parallel same' (next u) (next' v)) :
    M.Parallel same' (f >>= next) (g >>= next') := by
  intro a b sound sound' related
  have agree := first a b sound sound' related
  rcases run : f a with ⟨answer, s, events⟩
  rcases run' : g b with ⟨answer', t, events'⟩
  rw [run, run'] at agree
  cases agree with
  | ok h related' soundS soundT =>
    rw [bind_apply_of_ok run, bind_apply_of_ok run']
    exact (rest _ _ h _ _ soundS soundT related').events _ _
  | error related' =>
    rw [bind_apply_of_error run, bind_apply_of_error run']
    exact .error related'
  | spent free exhausted =>
    rw [← run, ← run'] at exhausted
    exact .spent free (exhausted.imp exhausted_bind exhausted_bind)

theorem Parallel.pure_bind {u : α} {v : β} {next : α → HeapAction α'} {next' : β → HeapAction β'}
    (h : M.Parallel same' (next u) (next' v)) :
    M.Parallel same' (Pure.pure u >>= next) (Pure.pure v >>= next') := h

/-- The accounts of the handle table agree, and stay so. -/
def KeepsAccounts (f : HeapAction α) : Prop :=
  f.Keeps fun before after : Heap => before.handles.Accounted → after.handles.Accounted

/-- Work that is refused for lack of space, although the refusal was an answer in between. -/
theorem exhausted_attempt_bind {f : HeapAction α} {next : Except HeapError α → HeapAction α'}
    {heap : Heap} (accounted : heap.handles.Accounted) (keeps : KeepsAccounts f)
    (ends : ∀ e heap, heap.handles.Accounted →
      (next (.error e) heap).answer = .error (.refused e))
    (spent : (f heap).Exhausted) : ((f.attempt >>= next) heap).Exhausted := by
  obtain ⟨stop, answer, requested, offset, capacity, rfl⟩ := spent
  have kept := keeps.step heap accounted
  rcases run : f heap with ⟨_ | _, s, events⟩ <;> rw [run] at answer kept <;> cases answer
  have tried : f.attempt heap =
      ⟨.ok (.error (.outOfMemory (.exhausted requested offset capacity))), s, events⟩ := by
    simp only [attempt, run]
  exact ⟨_, (answer_bind_of_ok tried).trans (ends _ s kept), _, _, _, rfl⟩

/-- A refusal is turned into an answer only for work that ends the records it made and is refused
after all. -/
theorem Parallel.attempt_bind {f : HeapAction α} {g : HeapAction β}
    {next : Except HeapError α → HeapAction α'} {next' : Except HeapError β → HeapAction β'}
    (first : M.Parallel same f g)
    (ok : ∀ u v, same u v → M.Parallel same' (next (.ok u)) (next' (.ok v)))
    (refused : ∀ e a b, M.related a b →
      M.related (next (.error e) a).state (next' (.error e) b).state)
    (accounted : ∀ a b, M.related a b → a.handles.Accounted ∧ b.handles.Accounted)
    (keeps : KeepsAccounts f) (keeps' : KeepsAccounts g)
    (ends : ∀ e heap, heap.handles.Accounted → (next (.error e) heap).answer = .error (.refused e))
    (ends' : ∀ e heap, heap.handles.Accounted →
      (next' (.error e) heap).answer = .error (.refused e)) :
    M.Parallel same' (f.attempt >>= next) (g.attempt >>= next') := by
  intro a b sound sound' related
  obtain ⟨accountedA, accountedB⟩ := accounted a b related
  have agree := first a b sound sound' related
  have kept := keeps.step a accountedA
  have kept' := keeps'.step b accountedB
  rcases run : f a with ⟨answer, s, events⟩
  rcases run' : g b with ⟨answer', t, events'⟩
  rw [run] at kept
  rw [run'] at kept'
  rw [run, run'] at agree
  cases agree with
  | @ok u v _ _ _ _ h related' soundS soundT =>
    have tried : f.attempt a = ⟨.ok (.ok u), s, events⟩ := by simp only [attempt, run]
    have tried' : g.attempt b = ⟨.ok (.ok v), t, events'⟩ := by simp only [attempt, run']
    rw [bind_apply_of_ok tried, bind_apply_of_ok tried']
    exact (ok u v h _ _ soundS soundT related').events _ _
  | @error stop _ _ _ _ related' =>
    cases stop with
    | refused e =>
      have tried : f.attempt a = ⟨.ok (.error e), s, events⟩ := by simp only [attempt, run]
      have tried' : g.attempt b = ⟨.ok (.error e), t, events'⟩ := by simp only [attempt, run']
      rw [bind_apply_of_ok tried, bind_apply_of_ok tried']
      exact (Agree.of_error (ends e s kept) (ends' e t kept') (refused e s t related')).events _ _
    | fault fault =>
      have tried : f.attempt a = ⟨.error (.fault fault), s, events⟩ := by
        simp only [attempt, run]
      have tried' : g.attempt b = ⟨.error (.fault fault), t, events'⟩ := by
        simp only [attempt, run']
      rw [bind_apply_of_error tried, bind_apply_of_error tried']
      exact .error related'
  | spent free exhausted =>
    rw [← run, ← run'] at exhausted
    exact .spent free (exhausted.imp (exhausted_attempt_bind accountedA keeps ends)
      (exhausted_attempt_bind accountedB keeps' ends'))

end Pairing

end HandleHeap
