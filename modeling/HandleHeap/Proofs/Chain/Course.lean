import HandleHeap.Proofs.Chain.Visits
import HandleHeap.Proofs.Heap.Safety

/-!
# The course of a walk

The body of a walk may change the heap as it likes, so the chain that a walk follows is a different
one after each call. What the calls are and how the walk ends is told from call to call:

* `Visit.Leads`, `Visit.Breaks`, `Visit.Stops`: what a visit can come to;
* `Heap.Awaits`: what a walk is to visit next, once it made some calls;
* `getElem?_visits_zero`, `getElem?_visits_succ`: each call is at what the calls before it lead to,
  unless that is null-like or the calls are as many as a walk may make;
* `Heap.EndsWith`, `exists_endsWith`, `walk_alike_iff`: the last call decides how the walk ends;
* `walk_course`: all of this, about the calls that a body lists.
-/

namespace HandleHeap

open HandleHeap.Action

variable {σ β : Type} {body : σ → Handle → HeapAction (σ × Option β)}

/-! ## 1. What a visit comes to -/

/-- The body gives no value, and the object has the next one as its prototype in the heap that the
body leaves. -/
def Visit.Leads (body : σ → Handle → HeapAction (σ × Option β)) (visit next : Visit σ) : Prop :=
  ∃ events, body visit.own visit.object visit.heap = ⟨.ok (next.own, none), next.heap, events⟩ ∧
    (next.heap.prototype visit.object).answer = .ok next.object

/-- The body gives a value, which ends the walk. -/
def Visit.Breaks (body : σ → Handle → HeapAction (σ × Option β)) (visit : Visit σ) (own : σ)
    (value : β) (after : Heap) : Prop :=
  ∃ events, body visit.own visit.object visit.heap = ⟨.ok (own, some value), after, events⟩

/-- The body ends early, or there is no reading the prototype in the heap that it leaves. -/
def Visit.Stops (body : σ → Handle → HeapAction (σ × Option β)) (visit : Visit σ) (stop : Stop)
    (after : Heap) : Prop :=
  (∃ events, body visit.own visit.object visit.heap = ⟨.error stop, after, events⟩) ∨
    ∃ own events, body visit.own visit.object visit.heap = ⟨.ok (own, none), after, events⟩ ∧
      (after.prototype visit.object).answer = .error stop

theorem Visit.leads_iff {visit next : Visit σ} :
    visit.Leads body next ↔ visit.next body = some next := by
  constructor
  · rintro ⟨events, run, found⟩
    rw [Heap.next_of_ok run, found]
    rfl
  · intro on
    obtain ⟨events, read, run, found⟩ := Heap.next_eq_some on
    exact ⟨events, run, congrArg Report.answer found⟩

/-- A visit leads on, breaks or stops. -/
theorem Visit.cases (body : σ → Handle → HeapAction (σ × Option β)) (visit : Visit σ) :
    (∃ next, visit.Leads body next) ∨ (∃ own value after, visit.Breaks body own value after) ∨
      ∃ stop after, visit.Stops body stop after := by
  rcases run : body visit.own visit.object visit.heap with ⟨stop | ⟨own, _ | value⟩, after, events⟩
  · exact .inr (.inr ⟨stop, after, .inl ⟨events, run⟩⟩)
  · cases found : (after.prototype visit.object).answer with
    | ok object => exact .inl ⟨⟨own, object, after⟩, events, run, found⟩
    | error stop => exact .inr (.inr ⟨stop, after, .inr ⟨own, events, run, found⟩⟩)
  · exact .inr (.inl ⟨own, value, after, events, run⟩)

namespace Heap

/-! ## 2. The calls -/

theorem getElem?_visitsFrom_zero (remaining : Nat) (first call : Visit σ) :
    (visitsFrom body remaining first)[0]? = some call ↔
      0 < remaining ∧ first.object.isNull = false ∧ first = call := by
  cases remaining with
  | zero => simp [visitsFrom]
  | succ remaining => cases null : first.object.isNull <;> simp [visitsFrom, null]

/-- By induction on what remains: a later call is a call of the walk from the second visit on. -/
theorem getElem?_visitsFrom_succ (remaining index : Nat) (first next : Visit σ) :
    (visitsFrom body remaining first)[index + 1]? = some next ↔
      index + 1 < remaining ∧ next.object.isNull = false ∧
        ∃ call, (visitsFrom body remaining first)[index]? = some call ∧
          call.Leads body next := by
  induction remaining generalizing first index with
  | zero => simp [visitsFrom]
  | succ remaining ih =>
    cases null : first.object.isNull with
    | true => simp [visitsFrom_of_null null]
    | false =>
      cases on : first.next body with
      | none =>
        rw [visitsFrom_of_end null on]
        cases index with
        | zero => simp [Visit.leads_iff, on]
        | succ index => simp
      | some second =>
        rw [visitsFrom_of_next null on, List.getElem?_cons_succ]
        cases index with
        | zero =>
          rw [getElem?_visitsFrom_zero]
          simp only [List.getElem?_cons_zero, Option.some.injEq, exists_eq_left', Visit.leads_iff,
            on, zero_add, Nat.lt_add_left_iff_pos]
          constructor
          · rintro ⟨few, object, rfl⟩
            exact ⟨few, object, rfl⟩
          · rintro ⟨few, object, rfl⟩
            exact ⟨few, object, rfl⟩
        | succ index =>
          rw [ih, List.getElem?_cons_succ, Nat.add_lt_add_iff_right]

section Calls

variable {start : Handle} {own : σ} {heap : Heap}

/-- The first call is at the start, unless that is null-like. -/
theorem getElem?_visits_zero (call : Visit σ) :
    (visits start own body heap)[0]? = some call ↔
      start.isNull = false ∧ call = ⟨own, start, heap⟩ := by
  rw [visits, getElem?_visitsFrom_zero]
  constructor
  · rintro ⟨-, object, rfl⟩
    exact ⟨object, rfl⟩
  · rintro ⟨object, rfl⟩
    exact ⟨Nat.succ_pos _, object, rfl⟩

/-- Each later call is where the one before leads, unless that is null-like. -/
theorem getElem?_visits_succ (index : Nat) (next : Visit σ) :
    (visits start own body heap)[index + 1]? = some next ↔
      index + 1 < maxChainDepth ∧ next.object.isNull = false ∧
        ∃ call, (visits start own body heap)[index]? = some call ∧ call.Leads body next :=
  getElem?_visitsFrom_succ ..

end Calls

/-! ## 3. The ending -/

/-- What a walk is to visit, once it made some calls: where it starts, or where the last call
leads. -/
def Awaits (body : σ → Handle → HeapAction (σ × Option β)) (first : Visit σ)
    (calls : List (Visit σ)) (next : Visit σ) : Prop :=
  match calls.getLast? with
  | none => next = first
  | some call => call.Leads body next

/-- The object of the last call. -/
def lastObject (calls : List (Visit σ)) : Handle :=
  match calls.getLast? with
  | none => .null
  | some call => call.object

/-- How a walk ends, and with which heap, that made some calls. -/
inductive EndsWith (body : σ → Handle → HeapAction (σ × Option β)) (first : Visit σ)
    (calls : List (Visit σ)) : Except Stop (σ × ChainWalk β) → Heap → Prop
  | broke {call : Visit σ} {own : σ} {value : β} {after : Heap} {hops : Nat} :
    calls.getLast? = some call → call.Breaks body own value after → calls.length = hops + 1 →
      EndsWith body first calls (.ok (own, .broke value call.object hops)) after
  | ended {next : Visit σ} : Awaits body first calls next → next.object.isNull = true →
      EndsWith body first calls (.ok (next.own, .ended (lastObject calls) calls.length)) next.heap
  | tooDeep {next : Visit σ} : Awaits body first calls next → next.object.isNull = false →
    calls.length = maxChainDepth →
      EndsWith body first calls (.ok (next.own, .depthExceeded (lastObject calls) calls.length))
        next.heap
  | stopped {call : Visit σ} {stop : Stop} {after : Heap} : calls.getLast? = some call →
    call.Stops body stop after → EndsWith body first calls (.error stop) after

section EndsWith

variable {first : Visit σ} {calls before : List (Visit σ)}

theorem awaits_concat {call next : Visit σ} :
    Awaits body first (before ++ [call]) next ↔ call.Leads body next := by
  rw [Awaits, List.getLast?_concat]

theorem lastObject_concat {call : Visit σ} : lastObject (before ++ [call]) = call.object := by
  rw [lastObject, List.getLast?_concat]

end EndsWith

section Walk

variable {start : Handle} {own : σ} {heap : Heap}

/-- What decides how a walk ends is the run of its last call. -/
theorem walk_at_concat {before : List (Visit σ)} {call : Visit σ}
    (h : visits start own body heap = before ++ [call]) :
    ∃ left last, maxChainDepth = before.length + (left + 1) ∧ call.object.isNull = false ∧
      visitsFrom body (left + 1) call = [call] ∧
      (walk start own body heap).Alike
        (walkFrom start body (left + 1) before.length last call.object call.own call.heap) := by
  obtain ⟨left, last, all, object, rest, alike⟩ := walkFrom_at h start 0 .null
  rw [Nat.zero_add] at alike
  exact ⟨left, last, all, object, rest, alike⟩

/-- A walk makes a call unless it starts at a null-like handle. -/
theorem visits_eq_nil : visits start own body heap = [] ↔ start.isNull = true := by
  constructor
  · intro none
    cases null : start.isNull with
    | true => rfl
    | false =>
      have first : (visits start own body heap)[0]? = some ⟨own, start, heap⟩ :=
        (getElem?_visits_zero _).mpr ⟨null, rfl⟩
      rw [none] at first
      cases first
  · exact fun null => visitsFrom_of_null null _

/-- A walk that was to go on is at its bound. -/
theorem length_of_leads {before : List (Visit σ)} {call next : Visit σ}
    (h : visits start own body heap = before ++ [call]) (leads : call.Leads body next)
    (object : next.object.isNull = false) : before.length + 1 = maxChainDepth := by
  have few : (visits start own body heap).length ≤ maxChainDepth := length_visitsFrom_le ..
  rw [h, List.length_append] at few
  refine Nat.le_antisymm few (Nat.le_of_not_lt fun more => ?_)
  have later : (visits start own body heap)[before.length + 1]? = some next :=
    (getElem?_visits_succ _ next).mpr ⟨more, object, call, h ▸ List.getElem?_concat_length, leads⟩
  rw [h] at later
  simp at later

/-- A walk ends as its last call has it. -/
theorem exists_endsWith (start : Handle) (own : σ) (body : σ → Handle → HeapAction (σ × Option β))
    (heap : Heap) : ∃ answer after,
      EndsWith body ⟨own, start, heap⟩ (visits start own body heap) answer after := by
  rcases List.eq_nil_or_concat' (visits start own body heap) with none | ⟨before, call, some⟩
  · have awaits : Awaits body ⟨own, start, heap⟩ (visits start own body heap)
        ⟨own, start, heap⟩ := by
      rw [none]
      rfl
    exact ⟨_, _, .ended awaits (visits_eq_nil.mp none)⟩
  · have last : (visits start own body heap).getLast? = .some call := by
      rw [some, List.getLast?_concat]
    have length : (visits start own body heap).length = before.length + 1 := by
      rw [some, List.length_append]
      rfl
    rcases call.cases body with ⟨next, leads⟩ | ⟨own', value, after, breaks⟩ | ⟨stop, after, stops⟩
    · have awaits : Awaits body ⟨own, start, heap⟩ (visits start own body heap) next := by
        rw [some, awaits_concat]
        exact leads
      cases null : next.object.isNull with
      | true => exact ⟨_, _, .ended awaits null⟩
      | false => exact ⟨_, _, .tooDeep awaits null (length.trans (length_of_leads some leads null))⟩
    · exact ⟨_, _, .broke last breaks length⟩
    · exact ⟨_, _, .stopped last stops⟩

theorem walk_of_broke {before : List (Visit σ)} {call : Visit σ} {own' : σ} {value : β}
    {after : Heap} (h : visits start own body heap = before ++ [call])
    (breaks : call.Breaks body own' value after) :
    (walk start own body heap).Alike
      ⟨.ok (own', .broke value call.object before.length), after, []⟩ := by
  obtain ⟨left, last, -, object, -, alike⟩ := walk_at_concat h
  obtain ⟨events, run⟩ := breaks
  exact alike.trans (walkFrom_of_broke object run ..)

theorem walk_of_stopped {before : List (Visit σ)} {call : Visit σ} {stop : Stop}
    {after : Heap} (h : visits start own body heap = before ++ [call])
    (stops : call.Stops body stop after) :
    (walk start own body heap).Alike ⟨.error stop, after, []⟩ := by
  obtain ⟨left, last, -, object, -, alike⟩ := walk_at_concat h
  refine alike.trans ?_
  unfold walkFrom
  simp only [object, Bool.false_eq_true, if_false]
  rcases stops with ⟨events, run⟩ | ⟨own', events, run, found⟩
  · rw [bind_apply_of_error run]
    exact ⟨rfl, rfl⟩
  · refine (bind_alike run).trans ?_
    rcases report : after.prototype call.object with ⟨answer, read⟩
    rw [report] at found
    cases found
    simp only
    rw [look_bind_of_error (Heap.prototype · call.object) report]
    exact ⟨rfl, rfl⟩

theorem walk_of_ended {next : Visit σ}
    (h : Awaits body ⟨own, start, heap⟩ (visits start own body heap) next)
    (null : next.object.isNull = true) :
    (walk start own body heap).Alike
      ⟨.ok (next.own, .ended (lastObject (visits start own body heap))
        (visits start own body heap).length), next.heap, []⟩ := by
  rcases List.eq_nil_or_concat' (visits start own body heap) with none | ⟨before, call, some⟩
  · rw [none] at h ⊢
    cases h
    unfold walk walkFrom
    rw [if_pos null]
    exact .refl _
  · rw [some, awaits_concat] at h
    obtain ⟨events, run, found⟩ := h
    rw [some, lastObject_concat, List.length_append]
    exact (walk_at_last some run found null).2

theorem walk_of_tooDeep {next : Visit σ}
    (h : Awaits body ⟨own, start, heap⟩ (visits start own body heap) next)
    (object : next.object.isNull = false)
    (all : (visits start own body heap).length = maxChainDepth) :
    (walk start own body heap).Alike
      ⟨.ok (next.own, .depthExceeded (lastObject (visits start own body heap))
        (visits start own body heap).length), next.heap, []⟩ := by
  rcases List.eq_nil_or_concat' (visits start own body heap) with none | ⟨before, call, some⟩
  · rw [none] at all
    cases all
  · rw [some, awaits_concat] at h
    have full := length_of_leads some h object
    obtain ⟨left, last, count, object', -, alike⟩ := walk_at_concat some
    obtain rfl : left = 0 := by omega
    rw [some, lastObject_concat, List.length_append]
    refine (alike.trans (walkFrom_next object' (Visit.leads_iff.mp h) ..)).trans ?_
    unfold walkFrom
    simp only [object, Bool.false_eq_true, if_false]
    exact ⟨rfl, rfl⟩

/-- How a walk ends is decided by its calls. -/
theorem walk_of_endsWith {answer : Except Stop (σ × ChainWalk β)} {after : Heap}
    (h : EndsWith body ⟨own, start, heap⟩ (visits start own body heap) answer after) :
    (walk start own body heap).Alike ⟨answer, after, []⟩ := by
  cases h with
  | broke last breaks length =>
    obtain ⟨before, some⟩ := List.getLast?_eq_some_iff.mp last
    rw [some, List.length_append] at length
    cases Nat.succ.inj length
    exact walk_of_broke some breaks
  | ended awaits null => exact walk_of_ended awaits null
  | tooDeep awaits object all => exact walk_of_tooDeep awaits object all
  | stopped last stops =>
    obtain ⟨before, some⟩ := List.getLast?_eq_some_iff.mp last
    exact walk_of_stopped some stops

/-- A walk answers and leaves what its last call has it end with, and nothing else. -/
theorem walk_alike_iff {answer : Except Stop (σ × ChainWalk β)} {after : Heap} :
    (walk start own body heap).Alike ⟨answer, after, []⟩ ↔
      EndsWith body ⟨own, start, heap⟩ (visits start own body heap) answer after := by
  refine ⟨fun alike => ?_, walk_of_endsWith⟩
  obtain ⟨answer', after', ending⟩ := exists_endsWith start own body heap
  have same := alike.symm.trans (walk_of_endsWith ending)
  cases same.answer
  cases same.state
  exact ending

/-! ## 4. Bodies that keep a heap intact -/

/-- If the body keeps the heap intact, it is intact at each call. -/
theorem intact_of_getElem? (intact : heap.Intact)
    (keeps : ∀ own object, (body own object).Keeps fun before after : Heap =>
      before.Intact → after.Intact) {index : Nat} {call : Visit σ}
    (h : (visits start own body heap)[index]? = some call) : call.heap.Intact := by
  induction index generalizing call with
  | zero =>
    obtain ⟨-, rfl⟩ := (getElem?_visits_zero call).mp h
    exact intact
  | succ index ih =>
    obtain ⟨-, -, previous, earlier, events, run, -⟩ := (getElem?_visits_succ index call).mp h
    have kept := (keeps previous.own previous.object).step previous.heap (ih earlier)
    rw [run] at kept
    exact kept

/-- There is always a prototype to be read after a body that keeps the heap intact. -/
theorem answer_of_stops {call : Visit σ} (intact : call.heap.Intact)
    (keeps : (body call.own call.object).Keeps fun before after : Heap =>
      before.Intact → after.Intact) {stop : Stop} {after : Heap}
    (stops : call.Stops body stop after) :
    (body call.own call.object call.heap).answer = .error stop := by
  rcases stops with ⟨events, run⟩ | ⟨own, events, run, missing⟩
  · rw [run]
  · have left := keeps.step call.heap intact
    rw [run] at left
    obtain ⟨next, found⟩ := left.exists_answer_prototype call.object
    cases missing.symm.trans found

end Walk

/-! ## 5. The course -/

/-- The body of a walk is called at the start, and then at the prototype that the object of the
call before has in the heap that its body left: until that is null-like, or the body gives a value,
or it was called as often as a walk may. The last call tells how the walk ends, whatever the
body did to the heap. If it kept the heap intact, the walk ends early only where its body does. -/
theorem walk_course (start : Handle) (own : σ) (body : σ → Handle → HeapAction (σ × Option β))
    (heap : Heap) :
    let first : Visit σ := ⟨own, start, heap⟩
    let calls := visits start own body heap
    let walked := walk start own body heap
    walk start (own, []) (logged body) heap = walked.logging calls ∧
      ((∀ call, calls[0]? = some call ↔ start.isNull = false ∧ call = first) ∧
        (∀ index next, calls[index + 1]? = some next ↔
          index + 1 < maxChainDepth ∧ next.object.isNull = false ∧
            ∃ call, calls[index]? = some call ∧ call.Leads body next) ∧
        calls.length ≤ maxChainDepth) ∧
      (∀ own' value place hops after,
        walked.Alike ⟨.ok (own', .broke value place hops), after, []⟩ ↔
          ∃ call, calls.getLast? = some call ∧ call.Breaks body own' value after ∧
            place = call.object ∧ calls.length = hops + 1) ∧
      (∀ own' last visited after,
        walked.Alike ⟨.ok (own', .ended last visited), after, []⟩ ↔
          ∃ object, Awaits body first calls ⟨own', object, after⟩ ∧ object.isNull = true ∧
            last = lastObject calls ∧ visited = calls.length) ∧
      (∀ own' last visited after,
        walked.Alike ⟨.ok (own', .depthExceeded last visited), after, []⟩ ↔
          ∃ object, Awaits body first calls ⟨own', object, after⟩ ∧ object.isNull = false ∧
            calls.length = maxChainDepth ∧ last = lastObject calls ∧ visited = maxChainDepth) ∧
      (∀ own' place hops after,
        ¬ walked.Alike ⟨.ok (own', .noShape place hops), after, []⟩) ∧
      ∀ config requested, Reached config requested heap →
        (∀ own object, (body own object).Keeps fun before after : Heap =>
          before.Intact → after.Intact) →
        ∀ stop, walked.answer = .error stop ↔ ∃ call, calls.getLast? = some call ∧
          (body call.own call.object call.heap).answer = .error stop := by
  intro first calls walked
  refine ⟨walk_logged start own body heap, ⟨getElem?_visits_zero, getElem?_visits_succ,
    length_visitsFrom_le ..⟩, fun own' value place hops after => ?broke,
    fun own' last visited after => ?ended, fun own' last visited after => ?tooDeep,
    fun own' place hops after alike => ?noShape,
    fun config requested reached keeps stop => ?stopped⟩
  case broke =>
    rw [walk_alike_iff]
    constructor
    · rintro (⟨last, breaks, length⟩ | _ | _ | _)
      exact ⟨_, last, breaks, rfl, length⟩
    · rintro ⟨call, last, breaks, rfl, length⟩
      exact .broke last breaks length
  case ended =>
    rw [walk_alike_iff]
    constructor
    · rintro (_ | ⟨awaits, null⟩ | _ | _)
      exact ⟨_, awaits, null, rfl, rfl⟩
    · rintro ⟨object, awaits, null, rfl, rfl⟩
      exact .ended awaits null
  case tooDeep =>
    rw [walk_alike_iff]
    constructor
    · rintro (_ | _ | ⟨awaits, live, all⟩ | _)
      exact ⟨_, awaits, live, all, rfl, all⟩
    · rintro ⟨object, awaits, live, all, rfl, rfl⟩
      have ending := EndsWith.tooDeep awaits live all
      rwa [all] at ending
  case noShape =>
    cases walk_alike_iff.mp alike
  case stopped =>
    have at_last {call : Visit σ} (last : calls.getLast? = some call) : call.heap.Intact := by
      rw [List.getLast?_eq_getElem?] at last
      exact intact_of_getElem? (intact_of_reached reached) keeps last
    constructor
    · intro failed
      cases walk_alike_iff.mp (⟨failed, rfl⟩ : walked.Alike ⟨.error stop, walked.state, []⟩) with
      | @stopped call _ _ last stops =>
        exact ⟨call, last, answer_of_stops (at_last last) (keeps ..) stops⟩
    · rintro ⟨call, last, failed⟩
      rcases run : body call.own call.object call.heap with ⟨answer, after, events⟩
      rw [run] at failed
      cases failed
      exact (walk_of_endsWith (.stopped last (.inl ⟨events, run⟩))).answer

/-- The body gives the first of two objects the second one as its prototype, and gives a value at
that. -/
theorem walk_course_small :
    let heap := newSmall.run [.allocObject .null 0, .allocObject .null 0, .allocShape ⟨2, 0⟩ 0]
    let body : Bool → Handle → HeapAction (Bool × Option Nat) := fun again object => do
      if again then return (again, some 7)
      set object ObjectField.shape ⟨3, 0⟩
      return (true, none)
    let walked := walk ⟨1, 0⟩ false body heap
    (∃ after, walked.Alike ⟨.ok (true, .broke 7 ⟨2, 0⟩ 1), after, []⟩) ∧
      ∀ stop, walked.answer ≠ .error stop := by
  intro heap body walked
  obtain ⟨requested, reached⟩ : ∃ requested, Reached { arenaCapacity := 1024 } requested heap :=
    ⟨_, reached_run (.new new_small) _⟩
  -- All that is computed of the heap.
  obtain ⟨made, found⟩ : (set ⟨1, 0⟩ ObjectField.shape ⟨3, 0⟩ heap).answer.toOption = some () ∧
      ((set ⟨1, 0⟩ ObjectField.shape ⟨3, 0⟩ heap).state.prototype ⟨1, 0⟩).answer.toOption =
        some ⟨2, 0⟩ := by
    decide +kernel
  clear_value heap
  rcases run : set ⟨1, 0⟩ ObjectField.shape ⟨3, 0⟩ heap with ⟨stop | _, after, events⟩ <;>
    rw [run] at made found
  · cases made
  have goes : body false ⟨1, 0⟩ heap = ⟨.ok (true, none), after, events ++ []⟩ := by
    show (set ⟨1, 0⟩ ObjectField.shape ⟨3, 0⟩ >>= fun _ => pure (true, none)) heap = _
    rw [bind_apply_of_ok run]
    rfl
  have on : Visit.next body ⟨false, ⟨1, 0⟩, heap⟩ = some ⟨true, ⟨2, 0⟩, after⟩ := by
    rw [next_of_ok goes, found]
    rfl
  have breaks : Visit.Breaks body ⟨true, ⟨2, 0⟩, after⟩ true 7 after := ⟨[], rfl⟩
  have calls : visits ⟨1, 0⟩ false body heap =
      [⟨false, ⟨1, 0⟩, heap⟩, ⟨true, ⟨2, 0⟩, after⟩] := by
    rw [visits, maxChainDepth, visitsFrom_of_next rfl on, visitsFrom_of_end rfl (next_of_broke rfl)]
  have keeps (own : Bool) (object : Handle) : (body own object).Keeps fun before after : Heap =>
      before.Intact → after.Intact := by
    cases own with
    | true => exact ⟨fun _ intact => intact⟩
    | false =>
      have safe : Safe (body false object) := (safe_set ..).bind fun _ => safe_pure _
      exact ⟨fun heap intact => (safe.fair heap intact).intact⟩
  obtain ⟨-, -, broke, -, -, -, stopped⟩ := walk_course ⟨1, 0⟩ false body heap
  rw [calls] at broke stopped
  refine ⟨⟨after, (broke ..).mpr ⟨_, rfl, breaks, rfl, rfl⟩⟩, fun stop failed => ?_⟩
  obtain ⟨call, last, failed⟩ := (stopped _ _ reached keeps stop).mp failed
  cases last
  cases failed

end Heap

end HandleHeap
