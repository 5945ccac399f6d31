import HandleHeap.Action

/-!
# What an action leaves behind

`Action.Keeps related action` says that `action` leaves every state one that is related to it,
whatever it answers. For a relation that is `Chained` there is one rule for each way in which
actions are put together, so a fact about all actions that are built from some primitives is proved
of the primitives.

`Action.state_look_bind` follows one run instead, where what is done next depends on what was read.
-/

namespace HandleHeap

theorem toOption_eq_some_iff {ε α : Type} {answer : Except ε α} {a : α} :
    answer.toOption = some a ↔ answer = .ok a := by
  cases answer <;> simp [Except.toOption]

/-! ## Reports -/

namespace Report

variable {ε α β : Type}

theorem pure_bind (a : α) (next : α → Report ε β) : (pure a >>= next) = next a := rfl

theorem bind_eq_ok {first : Report ε α} {next : α → Report ε β} {b : β}
    (h : (first >>= next).answer = .ok b) :
    ∃ a, first.answer = .ok a ∧ (next a).answer = .ok b := by
  obtain ⟨answer, events⟩ := first
  cases answer with
  | ok a => exact ⟨a, rfl, h⟩
  | error e => cases h

theorem answer_bind_of_ok {first : Report ε α} {next : α → Report ε β} {a : α}
    (h : first.answer = .ok a) : (first >>= next).answer = (next a).answer := by
  obtain ⟨answer, events⟩ := first
  cases h
  rfl

theorem mapError_eq_ok {ε' : Type} {explain : ε → ε'} {report : Report ε α} {a : α}
    (h : (report.mapError explain).answer = .ok a) : report.answer = .ok a := by
  obtain ⟨answer, events⟩ := report
  cases answer with
  | ok _ => exact congrArg _ (Except.ok.inj h)
  | error e => cases h

end Report

/-! ## Related states -/

/-- A relation that holds of a state and itself, and of the ends of two steps if it holds of each
step. -/
class Chained {σ : Type} (related : σ → σ → Prop) : Prop where
  refl : ∀ state, related state state
  trans : ∀ {a b c}, related a b → related b c → related a c

instance {σ : Type} : Chained (fun before after : σ => after = before) where
  refl _ := rfl
  trans first second := second.trans first

namespace Action

variable {ε σ α β γ : Type} {related : σ → σ → Prop}

/-- An action leaves every state one that is related to it, whatever it answers. -/
structure Keeps (related : σ → σ → Prop) (action : Action ε σ α) : Prop where
  step : ∀ state, related state (action state).state

theorem Keeps.mono {weaker : σ → σ → Prop} {action : Action ε σ α} (h : action.Keeps related)
    (imp : ∀ before after, related before after → weaker before after) : action.Keeps weaker :=
  ⟨fun state => imp _ _ (h.step state)⟩

theorem bind_eq_ok {first : Action ε σ α} {next : α → Action ε σ β} {state : σ} {b : β}
    (h : ((first >>= next) state).answer = .ok b) :
    ∃ a, (first state).answer = .ok a ∧ (next a (first state).state).answer = .ok b := by
  rcases run : first state with ⟨_ | a, middle, events⟩
  · rw [bind_apply_of_error run] at h
    cases h
  · rw [bind_apply_of_ok run] at h
    exact ⟨a, rfl, h⟩

theorem answer_bind_of_ok {first : Action ε σ α} {next : α → Action ε σ β} {state state' : σ} {a : α}
    {events : List Event} (h : first state = ⟨.ok a, state', events⟩) :
    ((first >>= next) state).answer = (next a state').answer := by
  rw [bind_apply_of_ok h]

theorem answer_bind_of_error {first : Action ε σ α} {next : α → Action ε σ β} {state : σ} {e : ε}
    (h : (first state).answer = .error e) : ((first >>= next) state).answer = .error e := by
  rcases run : first state with ⟨_ | _, after, events⟩ <;> rw [run] at h <;> cases h
  rw [bind_apply_of_error run]

theorem state_bind_of_ok {first : Action ε σ α} {next : α → Action ε σ β} {state state' : σ} {a : α}
    {events : List Event} (h : first state = ⟨.ok a, state', events⟩) :
    ((first >>= next) state).state = (next a state').state := by
  rw [bind_apply_of_ok h]

/-- What is answered at the end does not change the state. -/
theorem state_bind_pure (first : Action ε σ α) (answer : α → β) (state : σ) :
    ((first >>= fun a => pure (answer a)) state).state = (first state).state := by
  rcases run : first state with ⟨e | a, after, events⟩
  · rw [bind_apply_of_error run]
  · rw [bind_apply_of_ok run]
    rfl

/-- What is read decides what is done, so a run that starts with a report is followed by cases on
its answer. -/
theorem state_look_bind (report : σ → Report ε α) (next : α → Action ε σ β) (state : σ) :
    ((look report >>= next) state).state =
      match (report state).answer with
      | .ok a => (next a state).state
      | .error _ => state := by
  cases h : (report state).answer with
  | ok a =>
    have run : look report state = ⟨.ok a, state, (report state).events⟩ := by simp only [look, h]
    rw [bind_apply_of_ok run]
  | error e =>
    have run : look report state = ⟨.error e, state, (report state).events⟩ := by
      simp only [look, h]
    rw [bind_apply_of_error run]

theorem look_apply (report : σ → Report ε α) {state : σ} {answer : Except ε α}
    {events : List Event} (h : report state = ⟨answer, events⟩) :
    look report state = ⟨answer, state, events⟩ := by
  simp only [look, h]

/-- A report that answers without an event only passes its answer on. -/
theorem look_bind_of_pure (report : σ → Report ε α) {next : α → Action ε σ β} {state : σ} {a : α}
    (h : report state = pure a) : (look report >>= next) state = next a state := by
  have run : look report state = ⟨.ok a, state, []⟩ := by simp only [look, h, Report.pure_eq]
  rw [bind_apply_of_ok run]
  rfl

theorem look_bind_of_error (report : σ → Report ε α) {next : α → Action ε σ β} {state : σ} {e : ε}
    {events : List Event} (h : report state = ⟨.error e, events⟩) :
    (look report >>= next) state = ⟨.error e, state, events⟩ := by
  have run : look report state = ⟨.error e, state, events⟩ := by simp only [look, h]
  exact bind_apply_of_error run

/-- Work that is refused after its first part keeps the state of that part. -/
theorem state_bind_refuse (first : Action Stop σ α) (e : HeapError) (state : σ) :
    ((first >>= fun _ => (refuse e : Action Stop σ β)) state).state = (first state).state := by
  rcases run : first state with ⟨stop | a, after, events⟩
  · rw [bind_apply_of_error run]
  · rw [bind_apply_of_ok run]
    rfl

theorem answer_bind_refuse {first : Action Stop σ α} {state : σ} {a : α}
    (ok : (first state).answer = .ok a) (e : HeapError) :
    ((first >>= fun _ => (refuse e : Action Stop σ β)) state).answer = .error (.refused e) := by
  rcases run : first state with ⟨stop | a, after, events⟩ <;> rw [run] at ok
  · cases ok
  · rw [bind_apply_of_ok run]
    rfl

theorem state_attempt (action : Action Stop σ α) (state : σ) :
    (action.attempt state).state = (action state).state := by
  unfold attempt
  rcases action state with ⟨(e | f) | a, after, events⟩ <;> rfl

section Attempt

variable {action : Action Stop σ α} {state state' : σ} {events : List Event}

theorem attempt_of_ok {a : α} (run : action state = ⟨.ok a, state', events⟩) :
    attempt action state = ⟨.ok (.ok a), state', events⟩ := by
  rw [attempt, run]

theorem attempt_of_refused {e : HeapError}
    (run : action state = ⟨.error (.refused e), state', events⟩) :
    attempt action state = ⟨.ok (.error e), state', events⟩ := by
  rw [attempt, run]

theorem attempt_of_fault {fault : Fault}
    (run : action state = ⟨.error (.fault fault), state', events⟩) :
    attempt action state = ⟨.error (.fault fault), state', events⟩ := by
  rw [attempt, run]

end Attempt

theorem keeps_attempt {action : Action Stop σ α} (h : action.Keeps related) :
    action.attempt.Keeps related :=
  ⟨fun state => state_attempt action state ▸ h.step state⟩

variable [Chained related]

theorem keeps_pure (a : α) : (pure a : Action ε σ α).Keeps related := ⟨Chained.refl⟩

theorem keeps_fail (e : ε) : (fail e : Action ε σ α).Keeps related := ⟨Chained.refl⟩

theorem keeps_refuse (e : HeapError) : (refuse e : Action Stop σ α).Keeps related := ⟨Chained.refl⟩

theorem keeps_emit (event : Event) : (emit event : Action ε σ Unit).Keeps related := ⟨Chained.refl⟩

theorem keeps_look (report : σ → Report ε α) : (look report).Keeps related := ⟨Chained.refl⟩

/-- What follows an error is not run, so the first part alone decides then. -/
theorem related_bind {first : Action ε σ α} {next : α → Action ε σ β} {state : σ}
    (step : related state (first state).state)
    (rest : ∀ a, (first state).answer = .ok a →
      related (first state).state (next a (first state).state).state) :
    related state ((first >>= next) state).state := by
  rcases run : first state with ⟨_ | a, after, events⟩ <;> rw [run] at step rest
  · rw [bind_apply_of_error run]
    exact step
  · rw [bind_apply_of_ok run]
    exact Chained.trans step (rest a rfl)

theorem related_look_bind {report : σ → Report ε α} {next : α → Action ε σ β} {state : σ}
    (rest : ∀ a, (report state).answer = .ok a → related state (next a state).state) :
    related state ((look report >>= next) state).state :=
  related_bind (Chained.refl state) rest

theorem keeps_bind {first : Action ε σ α} {next : α → Action ε σ β} (h : first.Keeps related)
    (rest : ∀ a, (next a).Keeps related) : (first >>= next).Keeps related :=
  ⟨fun state => related_bind (h.step state) fun a _ => (rest a).step _⟩

end Action

end HandleHeap
