import HandleHeap.Proofs.Chain.Course

/-!
# Searches along a chain

A search reads and does not write, so all of its calls see one chain: that of the heap it starts
in. `Heap.ancestor?` is that chain, by the distance from its start, however it goes on: it may end,
lead to objects that are gone, or come back to where it was.

* `Sought`: what a search comes to in terms of the chain, and of nothing else;
* `sought_search`: a search comes to that, and by `Sought.unique` to nothing else;
* `search_exact`: both, for each way in which a search can end, and for asking whether an object
  is on the chain of another.
-/

namespace HandleHeap

open HandleHeap.Action

variable {σ : Type}

namespace Heap

/-! ## 1. Chains -/

/-- The objects on a prototype chain, by their distance from its start. The chain is cut at the
first null-like handle. -/
def ancestor? (heap : Heap) (start : Handle) : (distance : Nat) → Option Handle
  | 0 => if start.isNull then none else some start
  | distance + 1 => do
    let object ← heap.ancestor? start distance
    let next ← (heap.prototype object).answer.toOption
    if next.isNull then none else some next

section Chain

variable {heap : Heap} {start : Handle}

theorem ancestor?_succ {distance : Nat} {object next : Handle}
    (h : heap.ancestor? start distance = some object)
    (found : (heap.prototype object).answer = .ok next) :
    heap.ancestor? start (distance + 1) = if next.isNull then none else some next := by
  rw [ancestor?, h, Option.bind_eq_bind, Option.bind_some, found]
  rfl

theorem ancestor?_succ_eq_some {distance : Nat} {next : Handle}
    (h : heap.ancestor? start (distance + 1) = some next) :
    ∃ object, heap.ancestor? start distance = some object ∧
      (heap.prototype object).answer = .ok next ∧ next.isNull = false := by
  cases before : heap.ancestor? start distance with
  | none =>
    rw [ancestor?, before] at h
    cases h
  | some object =>
    cases found : (heap.prototype object).answer with
    | error stop =>
      rw [ancestor?, before, Option.bind_eq_bind, Option.bind_some, found] at h
      cases h
    | ok other =>
      rw [ancestor?_succ before found] at h
      cases null : other.isNull <;> rw [null] at h <;> cases h
      exact ⟨object, rfl, found, null⟩

/-- Before an object on a chain there is one at each distance. -/
theorem exists_ancestor?_of_le {near far : Nat} {object : Handle} (le : near ≤ far)
    (h : heap.ancestor? start far = some object) :
    ∃ other, heap.ancestor? start near = some other := by
  induction far, le using Nat.le_induction generalizing object with
  | base => exact ⟨object, h⟩
  | succ far _ ih =>
    obtain ⟨before, earlier, -⟩ := ancestor?_succ_eq_some h
    exact ih earlier

/-- Where two distances lead to the same object, all that follows is the same. -/
theorem ancestor?_add_eq {near far : Nat}
    (h : heap.ancestor? start near = heap.ancestor? start far) (more : Nat) :
    heap.ancestor? start (near + more) = heap.ancestor? start (far + more) := by
  induction more with
  | zero => exact h
  | succ more ih => rw [← Nat.add_assoc, ← Nat.add_assoc, ancestor?, ancestor?, ih]

/-- A chain that comes back to an object has no end. -/
theorem ancestor?_of_cycle {near far : Nat} {object : Handle} (less : near < far)
    (first : heap.ancestor? start near = some object)
    (again : heap.ancestor? start far = some object) (distance : Nat) :
    ∃ other, heap.ancestor? start distance = some other := by
  have returns (turns : Nat) : ∃ later ≥ turns, heap.ancestor? start later = some object := by
    induction turns with
    | zero => exact ⟨near, Nat.zero_le _, first⟩
    | succ turns ih =>
      obtain ⟨later, many, there⟩ := ih
      refine ⟨later + (far - near), Nat.lt_of_le_of_lt many (Nat.lt_add_of_pos_right
        (Nat.sub_pos_of_lt less)), ?_⟩
      rw [ancestor?_add_eq (there.trans first.symm), Nat.add_sub_cancel' less.le]
      exact again
  obtain ⟨later, far, there⟩ := returns distance
  exact exists_ancestor?_of_le far there

end Chain

/-! ## 2. What is sought along a chain -/

/-- There is an object at a distance, and it does not satisfy a predicate. -/
def Passes (heap : Heap) (start : Handle) (predicate : Handle → Bool) (distance : Nat) : Prop :=
  ∃ object, heap.ancestor? start distance = some object ∧ predicate object = false

/-- The last of so many objects on a chain, null if there are none. -/
def lastOf (heap : Heap) (start : Handle) : (length : Nat) → Handle
  | 0 => .null
  | length + 1 => (heap.ancestor? start length).getD .null

theorem lastOf_of_pos (heap : Heap) (start : Handle) {length : Nat} (some : 0 < length) :
    heap.lastOf start length = (heap.ancestor? start (length - 1)).getD .null := by
  cases length with
  | zero => exact absurd some (Nat.lt_irrefl 0)
  | succ length => rfl

/-- What a search for an object that satisfies a predicate comes to. -/
inductive Sought (heap : Heap) (start : Handle) (predicate : Handle → Bool) : ChainSearch → Prop
  | found {object : Handle} {hops : Nat} : hops < maxChainDepth →
    heap.ancestor? start hops = some object → predicate object = true →
    (∀ nearer < hops, heap.Passes start predicate nearer) →
      Sought heap start predicate (.found object hops)
  | notFound {visited : Nat} : visited ≤ maxChainDepth → heap.ancestor? start visited = none →
    (∀ nearer < visited, heap.Passes start predicate nearer) →
      Sought heap start predicate (.notFound (heap.lastOf start visited) visited)
  | depthExceeded {next : Handle} {visited : Nat} : visited = maxChainDepth →
    heap.ancestor? start visited = some next →
    (∀ nearer < visited, heap.Passes start predicate nearer) →
      Sought heap start predicate (.depthExceeded (heap.lastOf start visited) visited)

section Sought

variable {heap : Heap} {start : Handle} {predicate : Handle → Bool} {result other : ChainSearch}

theorem Sought.passes (h : Sought heap start predicate result) {nearer : Nat}
    (less : nearer < result.count) : heap.Passes start predicate nearer := by
  cases h with
  | found _ _ _ passes => exact passes nearer less
  | notFound _ _ passes => exact passes nearer less
  | depthExceeded _ _ passes => exact passes nearer less

theorem Sought.count_le (h : Sought heap start predicate result) :
    result.count ≤ maxChainDepth := by
  cases h with
  | found less => exact less.le
  | notFound le => exact le
  | depthExceeded all => exact all.le

/-- A search ends where an object satisfies the predicate, where the chain ends, or at the bound. -/
theorem Sought.halts (h : Sought heap start predicate result) (less : result.count < maxChainDepth) :
    ¬ heap.Passes start predicate result.count := by
  rintro ⟨object, there, fails⟩
  cases h with
  | found _ found holds _ =>
    cases found.symm.trans there
    cases holds.symm.trans fails
  | notFound _ ended _ => cases ended.symm.trans there
  | depthExceeded all => exact absurd all (Nat.ne_of_lt less)

theorem Sought.count_eq (h : Sought heap start predicate result)
    (h' : Sought heap start predicate other) : result.count = other.count := by
  rcases Nat.lt_trichotomy result.count other.count with less | same | more
  · exact absurd (h'.passes less) (h.halts (less.trans_le h'.count_le))
  · exact same
  · exact absurd (h.passes more) (h'.halts (more.trans_le h.count_le))

/-- A search comes to one thing only. -/
theorem Sought.unique (h : Sought heap start predicate result)
    (h' : Sought heap start predicate other) : result = other := by
  have same := h.count_eq h'
  cases h with
  | found less found holds _ =>
    cases h' with
    | found _ found' _ _ =>
      cases same
      cases found.symm.trans found'
      rfl
    | notFound _ ended _ =>
      cases same
      cases found.symm.trans ended
    | depthExceeded all => exact absurd (same.trans all) (Nat.ne_of_lt less)
  | notFound _ ended _ =>
    cases h' with
    | found _ found _ _ =>
      cases same
      cases ended.symm.trans found
    | notFound =>
      cases same
      rfl
    | depthExceeded _ further _ =>
      cases same
      cases ended.symm.trans further
  | depthExceeded all further _ =>
    cases h' with
    | found less => exact absurd (same.symm.trans all) (Nat.ne_of_lt less)
    | notFound _ ended _ =>
      cases same
      cases further.symm.trans ended
    | depthExceeded =>
      cases same
      rfl

end Sought

/-! ## 3. Searches -/

/-- The body of a search: it ends the walk where a test holds. -/
def examine (test : σ → Heap → Handle → Report Stop (σ × Bool)) :
    σ → Handle → HeapAction (σ × Option Unit) := fun own object => do
  let (own, holds) ← Action.look fun heap => test own heap object
  return (own, if holds then some () else none)

/-- A test decides a predicate, whatever state of its own it carries. -/
def Decides (heap : Heap) (test : σ → Heap → Handle → Report Stop (σ × Bool))
    (predicate : Handle → Bool) : Prop :=
  ∀ own object, ∃ own', (test own heap object).answer = .ok (own', predicate object)

section Search

variable {heap : Heap} {start : Handle} {own : σ}
  {test : σ → Heap → Handle → Report Stop (σ × Bool)} {predicate : Handle → Bool}

theorem examine_apply (decides : heap.Decides test predicate) (own : σ) (object : Handle) :
    ∃ own' events, examine test own object heap =
      ⟨.ok (own', if predicate object then some () else none), heap, events⟩ := by
  obtain ⟨own', answer⟩ := decides own object
  rcases report : test own heap object with ⟨_, events⟩
  rw [report] at answer
  cases answer
  refine ⟨own', events ++ [], ?_⟩
  rw [examine, bind_apply_of_ok (look_apply (fun heap => test own heap object) report)]
  rfl

/-- A search that goes on has passed an object, and left the heap as it was. -/
theorem leads_examine (decides : heap.Decides test predicate) {call next : Visit σ}
    (here : call.heap = heap) (leads : call.Leads (examine test) next) :
    next.heap = heap ∧ predicate call.object = false ∧
      (heap.prototype call.object).answer = .ok next.object := by
  obtain ⟨events, run, found⟩ := leads
  obtain ⟨own', told, run'⟩ := examine_apply decides call.own call.object
  rw [here, run'] at run
  have left : heap = next.heap := congrArg Outcome.state run
  refine ⟨left.symm, ?_, left ▸ found⟩
  have none := congrArg Prod.snd (Except.ok.inj (congrArg Outcome.answer run))
  cases holds : predicate call.object with
  | false => rfl
  | true =>
    rw [holds] at none
    cases none

/-- By induction along the calls, each of which passes its object on to the next. -/
theorem chain_of_getElem? (decides : heap.Decides test predicate) {index : Nat} {call : Visit σ}
    (h : (visits start own (examine test) heap)[index]? = some call) :
    call.heap = heap ∧ heap.ancestor? start index = some call.object ∧
      ∀ nearer < index, heap.Passes start predicate nearer := by
  induction index generalizing call with
  | zero =>
    obtain ⟨object, rfl⟩ := (getElem?_visits_zero call).mp h
    refine ⟨rfl, ?_, fun nearer less => absurd less (Nat.not_lt_zero nearer)⟩
    rw [ancestor?, object]
    rfl
  | succ index ih =>
    obtain ⟨-, object, previous, earlier, leads⟩ := (getElem?_visits_succ index call).mp h
    obtain ⟨here, there, passes⟩ := ih earlier
    obtain ⟨left, fails, found⟩ := leads_examine decides here leads
    refine ⟨left, ?_, fun nearer less => ?_⟩
    · rw [ancestor?_succ there found, object]
      rfl
    · rcases Nat.lt_succ_iff_lt_or_eq.mp less with before | rfl
      · exact passes nearer before
      · exact ⟨previous.object, there, fails⟩

/-- What a search is to visit is what follows on the chain. -/
theorem chain_of_awaits (decides : heap.Decides test predicate) {next : Visit σ}
    (h : Awaits (examine test) ⟨own, start, heap⟩ (visits start own (examine test) heap) next) :
    let calls := visits start own (examine test) heap
    next.heap = heap ∧
      heap.ancestor? start calls.length =
        (if next.object.isNull then none else some next.object) ∧
      (∀ nearer < calls.length, heap.Passes start predicate nearer) ∧
      lastObject calls = heap.lastOf start calls.length := by
  intro calls
  rcases List.eq_nil_or_concat' calls with none | ⟨before, call, some⟩
  · have h : Awaits (examine test) ⟨own, start, heap⟩ calls next := h
    rw [none] at h ⊢
    cases h
    exact ⟨rfl, rfl, fun nearer less => absurd less (Nat.not_lt_zero nearer), rfl⟩
  · have h : Awaits (examine test) ⟨own, start, heap⟩ calls next := h
    have last : calls[before.length]? = .some call := by
      rw [some]
      exact List.getElem?_concat_length
    obtain ⟨here, there, passes⟩ := chain_of_getElem? decides last
    rw [some, awaits_concat] at h
    obtain ⟨left, fails, found⟩ := leads_examine decides here h
    rw [some, lastObject_concat, List.length_append]
    refine ⟨left, ancestor?_succ there found, fun nearer less => ?_, ?_⟩
    · rcases Nat.lt_succ_iff_lt_or_eq.mp less with before | rfl
      · exact passes nearer before
      · exact ⟨call.object, there, fails⟩
    · show call.object = (heap.ancestor? start before.length).getD .null
      rw [there]
      rfl

/-- What a search makes of the walk that it is. -/
theorem search_of_walk {own' : σ} {ended : ChainWalk Unit} {after : Heap}
    (alike : (walk start own (examine test) heap).Alike ⟨.ok (own', ended), after, []⟩) :
    (search start own test heap).answer = .ok (own', .ofWalk ended) ∧
      (search start own test heap).state = after := by
  obtain ⟨answered, left⟩ := alike
  rcases run : walk start own (examine test) heap with ⟨answer, state, events⟩
  rw [run] at answered left
  cases answered
  cases left
  have searched : search start own test heap = _ := bind_apply_of_ok run
  rw [searched]
  exact ⟨rfl, rfl⟩

/-- A search answers what the chain has it come to, and leaves the heap as it is. -/
theorem sought_search (start : Handle) (own : σ) (intact : heap.Intact)
    (decides : heap.Decides test predicate) :
    ∃ own' result, (search start own test heap).answer = .ok (own', result) ∧
      (search start own test heap).state = heap ∧ Sought heap start predicate result := by
  have few : (visits start own (examine test) heap).length ≤ maxChainDepth :=
    length_visitsFrom_le ..
  obtain ⟨answer, after, ending⟩ := exists_endsWith start own (examine test) heap
  have alike := walk_of_endsWith ending
  cases ending with
  | @broke call own' _ _ hops last breaks length =>
    rw [List.getLast?_eq_getElem?, length] at last
    obtain ⟨here, there, passes⟩ := chain_of_getElem? decides last
    obtain ⟨answered, left⟩ := search_of_walk alike
    obtain ⟨events, run⟩ := breaks
    obtain ⟨_, _, run'⟩ := examine_apply decides call.own call.object
    rw [here, run'] at run
    have same : heap = after := congrArg Outcome.state run
    have gives := congrArg Prod.snd (Except.ok.inj (congrArg Outcome.answer run))
    have holds : predicate call.object = true := by
      cases holds : predicate call.object with
      | true => rfl
      | false =>
        rw [holds] at gives
        cases gives
    exact ⟨own', _, answered, left.trans same.symm,
      .found (Nat.lt_of_lt_of_le (Nat.lt_of_succ_le length.ge) few) there holds passes⟩
  | ended awaits null =>
    obtain ⟨same, chain, passes, last⟩ := chain_of_awaits decides awaits
    obtain ⟨answered, left⟩ := search_of_walk alike
    rw [null] at chain
    rw [last] at answered
    exact ⟨_, _, answered, left.trans same, .notFound few chain passes⟩
  | tooDeep awaits object all =>
    obtain ⟨same, chain, passes, last⟩ := chain_of_awaits decides awaits
    obtain ⟨answered, left⟩ := search_of_walk alike
    rw [object] at chain
    rw [last] at answered
    exact ⟨_, _, answered, left.trans same, .depthExceeded all chain passes⟩
  | @stopped call stop _ last stops =>
    rw [List.getLast?_eq_getElem?] at last
    obtain ⟨here, -, -⟩ := chain_of_getElem? decides last
    obtain ⟨own', _, run⟩ := examine_apply decides call.own call.object
    rcases stops with ⟨events, run'⟩ | ⟨own'', events, run', missing⟩
    · rw [here, run] at run'
      cases congrArg Outcome.answer run'
    · rw [here, run] at run'
      obtain rfl : heap = after := congrArg Outcome.state run'
      obtain ⟨next, found⟩ := intact.exists_answer_prototype call.object
      cases missing.symm.trans found

/-- A search comes to what the chain has it come to, and to nothing else. -/
theorem search_iff (intact : heap.Intact) (decides : heap.Decides test predicate)
    {result : ChainSearch} :
    (∃ own', (search start own test heap).answer = .ok (own', result)) ↔
      Sought heap start predicate result := by
  obtain ⟨own', result', answered, -, sought⟩ := sought_search start own intact decides
  constructor
  · rintro ⟨own'', answered'⟩
    cases answered.symm.trans answered'
    exact sought
  · intro sought'
    cases sought.unique sought'
    exact ⟨own', answered⟩

end Search

/-! ## 4. Being on a chain -/

section Contains

variable {heap : Heap} {start target : Handle}

theorem decides_eq (heap : Heap) (target : Handle) :
    heap.Decides (fun (_ : Unit) _ object => pure ((), decide (object = target)))
      (fun object => object = target) :=
  fun _ _ => ⟨(), rfl⟩

theorem ne_of_passes {distance : Nat} (h : heap.Passes start (fun object => object = target) distance) :
    heap.ancestor? start distance ≠ some target := by
  obtain ⟨object, there, other⟩ := h
  rw [there]
  rintro ⟨⟩
  exact of_decide_eq_false other rfl

/-- Whether an object is on a chain: it is among the first objects, or the chain ends without it, or
goes on for longer than is searched. -/
theorem chainContains_cases (intact : heap.Intact) (start target : Handle) :
    (chainContains start target heap).state = heap ∧
      (((chainContains start target heap).answer = .ok true ∧
          ∃ distance < maxChainDepth, heap.ancestor? start distance = some target) ∨
        ((chainContains start target heap).answer = .ok false ∧
          heap.ancestor? start maxChainDepth = none ∧
          ∀ distance, heap.ancestor? start distance ≠ some target) ∨
        (chainContains start target heap).answer = .error (.refused .chainTooDeep) ∧
          (∃ next, heap.ancestor? start maxChainDepth = some next) ∧
          ∀ distance < maxChainDepth, heap.ancestor? start distance ≠ some target) := by
  obtain ⟨_, result, answered, left, sought⟩ :=
    sought_search start () intact (decides_eq heap target)
  rcases run : search start () (fun _ _ object => pure ((), object = target)) heap with
    ⟨answer, state, events⟩
  rw [run] at answered left
  cases answered
  obtain rfl : state = heap := left
  cases sought with
  | @found object hops less there holds passes =>
    rw [chainContains, bind_apply_of_ok run]
    exact ⟨rfl, .inl ⟨rfl, hops, less, of_decide_eq_true holds ▸ there⟩⟩
  | @notFound visited few ended passes =>
    rw [chainContains, bind_apply_of_ok run]
    refine ⟨rfl, .inr (.inl ⟨rfl, ?_, fun distance there => ?_⟩)⟩
    · cases more : state.ancestor? start maxChainDepth with
      | none => rfl
      | some next =>
        obtain ⟨other, before⟩ := exists_ancestor?_of_le few more
        cases ended.symm.trans before
    · rcases Nat.lt_or_ge distance visited with nearer | further
      · exact ne_of_passes (passes distance nearer) there
      · obtain ⟨other, before⟩ := exists_ancestor?_of_le further there
        cases ended.symm.trans before
  | @depthExceeded next _ all more passes =>
    rw [chainContains, bind_apply_of_ok run]
    rw [all] at more passes
    exact ⟨rfl, .inr (.inr ⟨rfl, ⟨next, more⟩, fun distance less =>
      ne_of_passes (passes distance less)⟩)⟩

/-- The three answers exclude each other, and so do their reasons. -/
theorem chainContains_iff (intact : heap.Intact) (start target : Handle) :
    ((chainContains start target heap).answer = .ok true ↔
        ∃ distance < maxChainDepth, heap.ancestor? start distance = some target) ∧
      ((chainContains start target heap).answer = .ok false ↔
        heap.ancestor? start maxChainDepth = none ∧
          ∀ distance, heap.ancestor? start distance ≠ some target) ∧
      ((chainContains start target heap).answer = .error (.refused .chainTooDeep) ↔
        (∃ next, heap.ancestor? start maxChainDepth = some next) ∧
          ∀ distance < maxChainDepth, heap.ancestor? start distance ≠ some target) ∧
      ∀ stop, (chainContains start target heap).answer = .error stop →
        stop = .refused .chainTooDeep := by
  obtain ⟨-, ⟨answer, distance, less, there⟩ | ⟨answer, ended, absent⟩ |
    ⟨answer, more, absent⟩⟩ := chainContains_cases intact start target
  · rw [answer]
    refine ⟨⟨fun _ => ⟨distance, less, there⟩, fun _ => rfl⟩, ⟨nofun, fun h => ?_⟩,
      ⟨nofun, fun h => ?_⟩, nofun⟩
    · exact absurd there (h.2 distance)
    · exact absurd there (h.2 distance less)
  · rw [answer]
    refine ⟨⟨nofun, fun ⟨distance, _, there⟩ => absurd there (absent distance)⟩,
      ⟨fun _ => ⟨ended, absent⟩, fun _ => rfl⟩, ⟨nofun, fun ⟨⟨next, more⟩, _⟩ => ?_⟩, nofun⟩
    cases ended.symm.trans more
  · rw [answer]
    refine ⟨⟨nofun, fun ⟨distance, less, there⟩ => absurd there (absent distance less)⟩,
      ⟨nofun, fun ⟨ended, _⟩ => ?_⟩, ⟨fun _ => ⟨more, absent⟩, fun _ => rfl⟩,
      fun stop same => (Except.error.inj same).symm⟩
    obtain ⟨next, more⟩ := more
    cases ended.symm.trans more

end Contains

/-! ## 5. Exactness -/

/-- A search finds the nearest object that satisfies its predicate among the first of the chain,
finds none where the chain ends without one, and gives up where the chain goes on. So an object is
said not to be on a chain only where the chain ends without it: never if it is cyclic, and
always if it is short and does not have the object. -/
theorem search_exact {config : Config} {requested : Nat} {heap : Heap}
    (reached : Reached config requested heap) (start : Handle) (own : σ)
    (test : σ → Heap → Handle → Report Stop (σ × Bool)) (predicate : Handle → Bool)
    (decides : ∀ own object, ∃ own', (test own heap object).answer = .ok (own', predicate object)) :
    let chain := heap.ancestor? start
    let searched := search start own test heap
    let contains target := (chainContains start target heap).answer
    let passed length := ∀ distance < length,
      ∃ object, chain distance = some object ∧ predicate object = false
    (searched.state = heap ∧ ∃ own' result, searched.answer = .ok (own', result)) ∧
      (∀ object hops, (∃ own', searched.answer = .ok (own', .found object hops)) ↔
        hops < maxChainDepth ∧ chain hops = some object ∧ predicate object = true ∧
          passed hops) ∧
      (∀ last visited, (∃ own', searched.answer = .ok (own', .notFound last visited)) ↔
        visited ≤ maxChainDepth ∧ chain visited = none ∧ passed visited ∧
          last = heap.lastOf start visited) ∧
      (∀ last visited, (∃ own', searched.answer = .ok (own', .depthExceeded last visited)) ↔
        visited = maxChainDepth ∧ (∃ next, chain maxChainDepth = some next) ∧
          passed maxChainDepth ∧ chain (maxChainDepth - 1) = some last) ∧
      ∀ target, (chainContains start target heap).state = heap ∧
        (contains target = .ok true ↔ ∃ distance < maxChainDepth, chain distance = some target) ∧
        (contains target = .ok false ↔
          chain maxChainDepth = none ∧ ∀ distance, chain distance ≠ some target) ∧
        (contains target = .error (.refused .chainTooDeep) ↔
          (∃ next, chain maxChainDepth = some next) ∧
            ∀ distance < maxChainDepth, chain distance ≠ some target) ∧
        (∀ stop, contains target = .error stop → stop = .refused .chainTooDeep) ∧
        (∀ near far object, near < far → chain near = some object → chain far = some object →
          contains target ≠ .ok false) ∧
        (chain maxChainDepth = none → ∃ found, contains target = .ok found) := by
  intro chain searched contains passed
  have intact := intact_of_reached reached
  obtain ⟨own', result, answered, left, -⟩ :=
    sought_search start own intact decides
  have exact {result : ChainSearch} : (∃ own', searched.answer = .ok (own', result)) ↔
      Sought heap start predicate result := search_iff intact decides
  refine ⟨⟨left, own', result, answered⟩, fun object hops => exact.trans ?found,
    fun last visited => exact.trans ?notFound, fun last visited => exact.trans ?depthExceeded,
    fun target => ?contains⟩
  case found =>
    constructor
    · rintro ⟨less, there, holds, passes⟩
      exact ⟨less, there, holds, passes⟩
    · rintro ⟨less, there, holds, passes⟩
      exact .found less there holds passes
  case notFound =>
    constructor
    · rintro (_ | ⟨few, ended, passes⟩ | _)
      exact ⟨few, ended, passes, rfl⟩
    · rintro ⟨few, ended, passes, rfl⟩
      exact .notFound few ended passes
  case depthExceeded =>
    have some : 0 < maxChainDepth := Nat.succ_pos _
    constructor
    · rintro (_ | _ | ⟨all, more, passes⟩)
      rw [all] at more passes
      obtain ⟨object, there, -⟩ := passes (maxChainDepth - 1) (Nat.sub_lt some Nat.one_pos)
      refine ⟨all, ⟨_, more⟩, passes, ?_⟩
      rw [all, heap.lastOf_of_pos start some, there]
      exact there
    · rintro ⟨all, ⟨next, more⟩, passes, there⟩
      have there : heap.ancestor? start (maxChainDepth - 1) = .some last := there
      have last_eq := heap.lastOf_of_pos start some
      rw [there, ← all] at last_eq
      obtain rfl : heap.lastOf start visited = last := last_eq
      exact .depthExceeded all (all ▸ more) (all ▸ passes)
  case contains =>
    obtain ⟨yes, no, deep, only⟩ := chainContains_iff intact start target
    refine ⟨(chainContains_cases intact start target).1, yes, no, deep, only,
      fun near far object less first again absent => ?_, fun ended => ?_⟩
    · obtain ⟨next, more⟩ := ancestor?_of_cycle less first again maxChainDepth
      cases (no.mp absent).1.symm.trans more
    · cases answer : contains target with
      | ok found => exact ⟨found, rfl⟩
      | error stop =>
        cases only stop answer
        obtain ⟨⟨next, more⟩, -⟩ := deep.mp answer
        cases ended.symm.trans more

/-- The last of three objects on a chain is found after two links. -/
theorem search_exact_small :
    let heap := newSmall.run [.allocObject .null 0, .allocShape ⟨1, 0⟩ 0, .allocObject ⟨2, 0⟩ 0,
      .allocShape ⟨3, 0⟩ 0, .allocObject ⟨4, 0⟩ 0]
    (search ⟨5, 0⟩ () (fun _ _ object => pure ((), object = ⟨1, 0⟩)) heap).answer =
        .ok ((), .found ⟨1, 0⟩ 2) ∧
      (chainContains ⟨5, 0⟩ ⟨1, 0⟩ heap).answer = .ok true ∧
      (chainContains ⟨5, 0⟩ ⟨2, 0⟩ heap).answer = .ok false := by
  intro heap
  have reached : Reached { arenaCapacity := 1024 } _ heap := reached_run (.new new_small) _
  -- All that is computed of the heap.
  obtain ⟨first, second, there, ended, absent⟩ :
      heap.ancestor? ⟨5, 0⟩ 0 = some ⟨5, 0⟩ ∧ heap.ancestor? ⟨5, 0⟩ 1 = some ⟨3, 0⟩ ∧
        heap.ancestor? ⟨5, 0⟩ 2 = some ⟨1, 0⟩ ∧ heap.ancestor? ⟨5, 0⟩ 3 = none ∧
        ∀ distance < 3, heap.ancestor? ⟨5, 0⟩ distance ≠ some ⟨2, 0⟩ := by
    decide +kernel
  clear_value heap
  obtain ⟨-, found, -, -, contains⟩ := search_exact reached ⟨5, 0⟩ ()
    (fun _ _ object => pure ((), object = ⟨1, 0⟩)) (fun object => object = ⟨1, 0⟩)
    fun _ _ => ⟨(), rfl⟩
  have passes : ∀ distance < 2, ∃ object,
      heap.ancestor? ⟨5, 0⟩ distance = some object ∧ decide (object = ⟨1, 0⟩) = false
    | 0, _ => ⟨_, first, rfl⟩
    | 1, _ => ⟨_, second, rfl⟩
  obtain ⟨_, searched⟩ := (found ⟨1, 0⟩ 2).mpr ⟨by decide, there, rfl, passes⟩
  refine ⟨searched, (contains ⟨1, 0⟩).2.1.mpr ⟨2, by decide, there⟩,
    (contains ⟨2, 0⟩).2.2.1.mpr ⟨?_, fun distance here => ?_⟩⟩
  · cases more : heap.ancestor? ⟨5, 0⟩ maxChainDepth with
    | none => rfl
    | some next =>
      obtain ⟨other, before⟩ := exists_ancestor?_of_le (by decide : 3 ≤ maxChainDepth) more
      cases ended.symm.trans before
  · rcases Nat.lt_or_ge distance 3 with nearer | further
    · exact absent distance nearer here
    · obtain ⟨other, before⟩ := exists_ancestor?_of_le further here
      cases ended.symm.trans before

end Heap

end HandleHeap
