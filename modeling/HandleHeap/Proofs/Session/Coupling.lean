import HandleHeap.Proofs.Session.Script

/-!
# Two runs of a script

A `Coupling` says how two heaps are alike on which the same is done, and that each single operation
leaves them alike and answers alike, unless something is logged of which nothing can be said, such
as a refusal for lack of space. `Coupling.run`: then two runs of a whole script answer alike, walks
and their bodies included. The first run may have moves put in that the second has not.
-/

namespace HandleHeap

open HandleHeap.Action Heap

/-! ## 1. Couplings -/

/-- Two heaps on which the same is done, the records of the first named otherwise, until something
is logged of which nothing can be said. -/
structure Coupling where
  rename : Handle → Handle
  null : rename .null = .null
  isNull : ∀ handle, (rename handle).isNull = handle.isNull
  /-- What is compared of the entries of a log. -/
  Seen : Type
  seen : Entry → Seen
  seen' : Entry → Seen
  spent : Entry → Prop
  spent' : Entry → Prop
  /-- How the heaps are alike, given how many bytes each was asked for. -/
  held : Nat → Heap → Nat → Heap → Prop
  allowed : Operation Handle → Prop
  /-- Whether moves may be put in. -/
  moves : Prop
  visited : ∀ object shape, seen (.visit (rename object) (shape.map rename)) =
    seen' (.visit object shape)
  walked : ∀ ended, seen (.walked (ended.map (ChainWalk.map rename))) = seen' (.walked ended)
  shape : ∀ {r a r' b}, held r a r' b → ∀ object, ∃ shape,
    (a.get (rename object) ObjectField.shape).answer = .ok (rename shape) ∧
      (b.get object ObjectField.shape).answer = .ok shape
  prototype : ∀ {r a r' b}, held r a r' b → ∀ object, ∃ next,
    (a.prototype (rename object)).answer = .ok (rename next) ∧
      (b.prototype object).answer = .ok next
  step : ∀ {r a r' b}, held r a r' b → ∀ {operation}, allowed operation →
    spent ((operation.map rename).entry a r false) ∨ spent' (operation.entry b r' false) ∨
      (seen ((operation.map rename).entry a r false) = seen' (operation.entry b r' false) ∧
        handlesOf ((operation.map rename).perform a).answer =
          (handlesOf (operation.perform b).answer).map rename ∧
        held ((operation.map rename).requested a r) ((operation.map rename).perform a).state
          (operation.requested b r') (operation.perform b).state)
  move : moves → ∀ {r a r' b}, held r a r' b → ∀ handle,
    spent ((Operation.relocate handle).entry a r true) ∨
      held ((Operation.relocate handle).requested a r) ((Operation.relocate handle).perform a).state
        r' b

namespace Coupling

variable {M : Coupling} {ρ : Type}

/-- Two sessions went alike so far. -/
structure Together (M : Coupling) (s t : Session) : Prop where
  held : M.held s.requested s.heap t.requested t.heap
  given : s.given = t.given.map M.rename
  log : (s.log.filter (!·.isInserted)).map M.seen = t.log.map M.seen'

/-- Something was logged of which nothing can be said. -/
def Spent (M : Coupling) (s t : Session) : Prop :=
  (∃ entry ∈ s.log, M.spent entry) ∨ ∃ entry ∈ t.log, M.spent' entry

theorem Spent.longer {s s' t t' : Session} (spent : M.Spent s t) (left : s.log <+: s'.log)
    (right : t.log <+: t'.log) : M.Spent s' t' :=
  spent.imp (fun ⟨entry, logged, spent⟩ => ⟨entry, left.subset logged, spent⟩)
    fun ⟨entry, logged, spent⟩ => ⟨entry, right.subset logged, spent⟩

/-- What a script has to be like to be run twice. -/
def Permits (M : Coupling) : Script ρ → Prop
  | .done => True
  | .perform operation rest => (∀ read : ρ → Handle, M.allowed (operation.map read)) ∧ M.Permits rest
  | .move _ rest => M.moves ∧ M.Permits rest
  | .walk _ _ body _ rest => (∀ visited, M.Permits (body visited)) ∧ M.Permits rest

variable {s t : Session}

theorem Together.act (both : M.Together s t) {operation : Operation Handle}
    (allowed : M.allowed operation) :
    M.Spent (s.act (operation.map M.rename) false) (t.act operation false) ∨
      M.Together (s.act (operation.map M.rename) false) (t.act operation false) := by
  rcases M.step both.held allowed with left | right | ⟨seen, answered, held⟩
  · exact .inl (.inl ⟨_, List.mem_append_right _ (List.mem_singleton_self _), left⟩)
  · exact .inl (.inr ⟨_, List.mem_append_right _ (List.mem_singleton_self _), right⟩)
  · refine .inr ⟨held, ?_, ?_⟩
    · show s.given ++ _ = (t.given ++ _).map M.rename
      rw [both.given, answered, List.map_append]
    · show ((s.log ++ [_]).filter _).map M.seen = (t.log ++ [_]).map M.seen'
      rw [List.filter_append, List.map_append, List.map_append, both.log]
      exact congrArg (_ ++ [·]) seen

theorem handlesOf_relocate (handle : Handle) (heap : Heap) :
    handlesOf ((Operation.relocate handle).perform heap).answer = [] := by
  show handlesOf ((Heap.relocate handle >>= fun _ => pure Answer.done) heap).answer = []
  rcases run : Heap.relocate handle heap with ⟨stop | _, after, events⟩
  · rw [bind_apply_of_error run]
    rfl
  · rw [bind_apply_of_ok run]
    rfl

theorem Together.move (both : M.Together s t) (moves : M.moves) (handle : Handle) :
    M.Spent (s.act (.relocate handle) true) t ∨ M.Together (s.act (.relocate handle) true) t := by
  rcases M.move moves both.held handle with spent | held
  · exact .inl (.inl ⟨_, List.mem_append_right _ (List.mem_singleton_self _), spent⟩)
  · refine .inr ⟨held, ?_, ?_⟩
    · show s.given ++ handlesOf _ = _
      rw [handlesOf_relocate, List.append_nil, both.given]
    · show ((s.log ++ [_]).filter _).map M.seen = _
      rw [List.filter_append, List.map_append, both.log]
      exact List.append_nil _

theorem Together.visit (both : M.Together s t) (object : Handle) (shape : Option Handle) :
    M.Together (s.visit (M.rename object) (shape.map M.rename)) (t.visit object shape) := by
  refine ⟨both.held, ?_, ?_⟩
  · show s.given ++ _ = (t.given ++ _).map M.rename
    rw [both.given, List.map_append]
    cases shape <;> rfl
  · show ((s.log ++ [_]).filter _).map M.seen = (t.log ++ [_]).map M.seen'
    rw [List.filter_append, List.map_append, List.map_append, both.log]
    exact congrArg (_ ++ [·]) (M.visited object shape)

/-! ## 2. Walks and scripts -/

/-- Walks whose bodies go alike go alike. -/
theorem Together.walkFrom (shaped : Bool) {body body' : Nat → Session → Session}
    (stops : Nat → Bool)
    (alike : ∀ visited {s t}, M.Together s t → M.Spent (body visited s) (body' visited t) ∨
      M.Together (body visited s) (body' visited t))
    (longer : ∀ visited session, session.log <+: (body visited session).log)
    (longer' : ∀ visited session, session.log <+: (body' visited session).log)
    (remaining hops : Nat) (last current : Handle) {s t : Session} (both : M.Together s t) :
    let left := Session.walkFrom shaped body stops remaining hops (M.rename last)
      (M.rename current) s
    let right := Session.walkFrom shaped body' stops remaining hops last current t
    M.Spent left.1 right.1 ∨
      (M.Together left.1 right.1 ∧ left.2 = right.2.map (ChainWalk.map M.rename)) := by
  induction remaining generalizing hops last current s t with
  | zero =>
    unfold Session.walkFrom
    rw [M.isNull]
    cases current.isNull with
    | true => exact .inr ⟨both, rfl⟩
    | false => exact .inr ⟨both, rfl⟩
  | succ remaining ih =>
    unfold Session.walkFrom
    rw [M.isNull]
    cases current.isNull with
    | true => exact .inr ⟨both, rfl⟩
    | false =>
      obtain ⟨shape, left, right⟩ : ∃ shape : Option Handle,
          Session.shapeFor s.heap (M.rename current) shaped = .ok (shape.map M.rename) ∧
            Session.shapeFor t.heap current shaped = .ok shape := by
        cases shaped with
        | false => exact ⟨none, rfl, rfl⟩
        | true =>
          obtain ⟨shape, left, right⟩ := M.shape both.held current
          exact ⟨some shape, by rw [Session.shapeFor, left]; rfl,
            by rw [Session.shapeFor, right]; rfl⟩
      have null : (shape.map M.rename).any Handle.isNull = shape.any Handle.isNull := by
        cases shape with
        | none => rfl
        | some shape => exact M.isNull shape
      simp only [left, right, null, Bool.false_eq_true, if_false]
      by_cases shapeless : shape.any Handle.isNull = true
      · rw [if_pos shapeless, if_pos shapeless]
        exact .inr ⟨both, rfl⟩
      rw [if_neg shapeless, if_neg shapeless]
      have called := alike hops (both.visit current shape)
      generalize body hops (s.visit (M.rename current) (shape.map M.rename)) = s' at called ⊢
      generalize body' hops (t.visit current shape) = t' at called ⊢
      cases stopped : stops hops with
      | true => exact called.imp id fun both => ⟨both, rfl⟩
      | false =>
        simp only [Bool.false_eq_true, if_false]
        rcases called with spent | both
        · -- Nothing is known of where the walks go on, but what was logged stays.
          refine .inl (spent.longer ?_ ?_)
          · split
            · exact List.prefix_rfl
            · exact Session.log_walkFrom longer ..
          · split
            · exact List.prefix_rfl
            · exact Session.log_walkFrom longer' ..
        · obtain ⟨next, left, right⟩ := M.prototype both.held current
          rw [left, right]
          exact ih (hops + 1) current next both

/-- Two runs of a script go alike, the first with the moves that are put in, the second without,
unless something is logged of which nothing can be said. -/
theorem run {read : List Handle → ρ → Handle}
    (natural : ∀ given name, read (given.map M.rename) name = M.rename (read given name))
    {script : Script ρ} (permitted : M.Permits script) (both : M.Together s t) :
    M.Spent (script.run read s) (script.erase.run read t) ∨
      M.Together (script.run read s) (script.erase.run read t) := by
  induction script generalizing s t with
  | done => exact .inr both
  | perform operation rest ih =>
    have named : operation.map (read s.given) =
        (operation.map (read t.given)).map M.rename := by
      rw [Operation.map_map, both.given]
      exact congrArg operation.map (funext (natural t.given))
    rcases both.act (permitted.1 (read t.given)) with spent | both
    · rw [← named] at spent
      exact .inl (spent.longer (Session.log_run ..) (Session.log_run ..))
    · rw [← named] at both
      exact ih permitted.2 both
  | move target rest ih =>
    rcases both.move permitted.1 (read s.given target) with spent | both
    · exact .inl (spent.longer (Session.log_run ..) (Session.log_run ..))
    · exact ih permitted.2 both
  | walk shaped start body stops rest called ih =>
    have walked := Together.walkFrom shaped stops
      (fun visited _ _ both => called visited (permitted.1 visited) both)
      (fun visited => Session.log_run read (body visited))
      (fun visited => Session.log_run read (body visited).erase) maxChainDepth 0 .null
      (read t.given start) both
    rw [M.null, ← natural, ← both.given] at walked
    rcases walked with spent | ⟨both, ended⟩
    · exact .inl (spent.longer ((Session.log_walk ..).trans (Session.log_run read rest _))
        ((Session.log_walk ..).trans (Session.log_run read rest.erase _)))
    · refine ih permitted.2 ⟨both.held, both.given, ?_⟩
      show ((_ ++ [_]).filter _).map M.seen = (_ ++ [_]).map M.seen'
      rw [List.filter_append, List.map_append, List.map_append, both.log, ended]
      exact congrArg (_ ++ [·]) (M.walked _)

end Coupling

end HandleHeap
