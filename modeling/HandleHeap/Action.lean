import HandleHeap.Event

/-!
# Reports and actions

Two shapes of work, both with events:
* a `Report` is the outcome of looking at something: an answer or an error. It has no state, so
  whatever is reported about a heap leaves the heap alone by its type;
* an `Action` takes a state and leaves an `Outcome`: an answer or an error, the state after it,
  and the events. An action that ends early keeps the state it reached.

Both are monads, and `Action.look` runs a report about the current state.
-/

namespace HandleHeap

structure Report (ε α : Type) where
  answer : Except ε α
  /-- Oldest first. -/
  events : List Event

namespace Report

variable {ε α β : Type}

protected def pure (a : α) : Report ε α := ⟨.ok a, []⟩

protected def bind (first : Report ε α) (next : α → Report ε β) : Report ε β :=
  match first.answer with
  | .ok a => ⟨(next a).answer, first.events ++ (next a).events⟩
  | .error e => ⟨.error e, first.events⟩

instance : Monad (Report ε) where
  pure := Report.pure
  bind := Report.bind

def fail (e : ε) : Report ε α := ⟨.error e, []⟩

def emit (event : Event) : Report ε Unit := ⟨.ok (), [event]⟩

/-- An answer or an error without events. -/
def ofExcept (answer : Except ε α) : Report ε α := ⟨answer, []⟩

/-- The same report with its error told otherwise. -/
def mapError {ε' : Type} (explain : ε → ε') (report : Report ε α) : Report ε' α :=
  ⟨report.answer.mapError explain, report.events⟩

def refuse (error : HeapError) : Report Stop α := fail (.refused error)

def fault (fault : Fault) : Report Stop α := fail (.fault fault)

/-- Answers `default` in place of a refusal. A fault stays a fault. -/
def withDefault (report : Report Stop α) (default : α) : Report Stop α :=
  match report.answer with
  | .error (.refused _) => ⟨.ok default, report.events⟩
  | _ => report

theorem pure_eq (a : α) : (pure a : Report ε α) = ⟨.ok a, []⟩ := rfl

theorem ok_bind (a : α) (events : List Event) (next : α → Report ε β) :
    ((⟨.ok a, events⟩ : Report ε α) >>= next) =
      ⟨(next a).answer, events ++ (next a).events⟩ := rfl

theorem error_bind (e : ε) (events : List Event) (next : α → Report ε β) :
    ((⟨.error e, events⟩ : Report ε α) >>= next) = ⟨.error e, events⟩ := rfl

end Report

structure Outcome (ε σ α : Type) where
  answer : Except ε α
  /-- The state after the action, also after one that ended early. -/
  state : σ
  /-- Oldest first. -/
  events : List Event

/-- Work on a state of type `σ` that answers `α` or ends early with `ε`. -/
def Action (ε σ α : Type) : Type := σ → Outcome ε σ α

namespace Action

variable {ε ε' σ τ α β : Type}

protected def pure (a : α) : Action ε σ α := fun state => ⟨.ok a, state, []⟩

protected def bind (first : Action ε σ α) (next : α → Action ε σ β) : Action ε σ β := fun state =>
  match first state with
  | ⟨.ok a, state, events⟩ =>
    let rest := next a state
    ⟨rest.answer, rest.state, events ++ rest.events⟩
  | ⟨.error e, state, events⟩ => ⟨.error e, state, events⟩

instance : Monad (Action ε σ) where
  pure := Action.pure
  bind := Action.bind

/-- Ends early, keeping the state. -/
def fail (e : ε) : Action ε σ α := fun state => ⟨.error e, state, []⟩

def emit (event : Event) : Action ε σ Unit := fun state => ⟨.ok (), state, [event]⟩

def modify (change : σ → σ) : Action ε σ Unit := fun state => ⟨.ok (), change state, []⟩

def look (report : σ → Report ε α) : Action ε σ α := fun state =>
  let r := report state
  ⟨r.answer, state, r.events⟩

def refuse (error : HeapError) : Action Stop σ α := fail (.refused error)

def fault (fault : Fault) : Action Stop σ α := fail (.fault fault)

/-- Answers a refusal instead of ending with it. A fault still ends the work. -/
def attempt (action : Action Stop σ α) : Action Stop σ (Except HeapError α) := fun state =>
  match action state with
  | ⟨.ok a, state, events⟩ => ⟨.ok (.ok a), state, events⟩
  | ⟨.error (.refused e), state, events⟩ => ⟨.ok (.error e), state, events⟩
  | ⟨.error (.fault f), state, events⟩ => ⟨.error (.fault f), state, events⟩

theorem pure_apply (a : α) (state : σ) : (pure a : Action ε σ α) state = ⟨.ok a, state, []⟩ := rfl

/-- The rest of the work starts from the state that the first part left. -/
theorem bind_apply_of_ok {first : Action ε σ α} {next : α → Action ε σ β} {state state' : σ}
    {a : α} {events : List Event} (h : first state = ⟨.ok a, state', events⟩) :
    (first >>= next) state =
      ⟨(next a state').answer, (next a state').state, events ++ (next a state').events⟩ := by
  simp only [bind, Action.bind, h]

/-- Nothing of the rest is done when the first part ends early. -/
theorem bind_apply_of_error {first : Action ε σ α} {next : α → Action ε σ β} {state state' : σ}
    {e : ε} {events : List Event} (h : first state = ⟨.error e, state', events⟩) :
    (first >>= next) state = ⟨.error e, state', events⟩ := by
  simp only [bind, Action.bind, h]

@[simp]
theorem state_look (report : σ → Report ε α) (state : σ) :
    (look report state).state = state := rfl

end Action

end HandleHeap
