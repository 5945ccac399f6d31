import HandleHeap.Proofs.Heap.Invariants
import HandleHeap.Proofs.Heap.Resting

/-!
# The dense elements of a session

Along with a session go the lists of its objects. An object that is made gets the empty list; from
then on `Operation.edited` says what appending to it and replacing its elements make of the list,
without a word of arrays. An object is given up (`Operation.touches`) when its count, its element
array or the bytes of that are changed in another way, or one of them is ended.

* `rests_of_unaltered`: other operations leave the objects and the element arrays as they are, apart
  from where those are and whether they are pinned.
* `lists_of_run`: hence the elements of every object that was not given up are the values of its list.
-/

namespace HandleHeap

open HandleHeap.Action Heap

/-! ## 1. What is left alone -/

namespace Operation

/-- The objects and element arrays that an operation may change or end. -/
def Alters (heap : Heap) : Operation Handle → Handle → Prop
  | set target .. => fun handle => handle = target ∧ heap.kind? handle = some .object
  | overwrite target .. | invalidate target => (· = target)
  | setElement object .. => fun handle =>
    heap.HasElements object handle ∧ heap.kind? handle = some .elementArray
  | pushElement object .. => fun handle =>
    (handle = object ∧ heap.kind? handle = some .object) ∨
      (heap.HasElements object handle ∧ heap.kind? handle = some .elementArray)
  | _ => fun _ => False

variable {heap : Heap}

/-- An operation leaves alone the objects and element arrays that it does not alter. -/
theorem rests_of_unaltered (sound : heap.Sound) (operation : Operation Handle)
    (onward : operation.rewinds = false) {handle : Handle} {kind : RecordKind}
    (known : heap.kind? handle = some kind) (data : kind = .object ∨ kind = .elementArray)
    (spared : ¬ operation.Alters heap handle) :
    View.Rests handle heap.view (operation.perform heap).state.view := by
  have shape : kind ≠ .shape := by rcases data with rfl | rfl <;> decide
  have slots : heap.kind? handle ≠ some .propertyArray := by
    rw [known]
    rcases data with rfl | rfl <;> decide
  refine rests_perform sound operation onward known shape fun disturbed => spared ?_
  cases operation with
  | @set layout scalar target field value =>
    obtain ⟨own, same⟩ := disturbed
    cases layout
    · exact ⟨own, same⟩
    · cases known.symm.trans same
      exact absurd rfl shape
  | setSlot | setSlotValue | setSlotGetter | setSlotSetter | setSlotVarRef | growProperties =>
    exact slots disturbed.2
  | _ => exact disturbed

end Operation

/-! ## 2. The lists of a session -/

namespace Operation

/-- Whether an operation makes an object. -/
def makes (heap : Heap) (object : Handle) : Operation Handle → Bool
  | allocObject shape classId =>
    match (Heap.allocObject shape classId heap).answer with
    | .ok made => made = object
    | .error _ => false
  | _ => false

/-- Whether a write to a record changes the count of an object, its element array, or what is in
that. -/
def overwrites (heap after : Heap) (object target : Handle) : Bool :=
  (target = object && (after.view.count object ≠ heap.view.count object ||
    after.view.elements object ≠ heap.view.elements object)) ||
  (target = heap.view.elements object && after.view.bytes target ≠ heap.view.bytes target)

/-- Whether an operation changes or ends the elements of an object, other than by appending to the
object and replacing its elements. -/
def touches (heap : Heap) (object : Handle) (operation : Operation Handle) : Bool :=
  match operation with
  | set target .. | overwrite target .. =>
    overwrites heap (operation.perform heap).state object target
  | invalidate target =>
    target = object || (target = heap.view.elements object && !target.isNull)
  | setElement other .. | pushElement other _ =>
    other ≠ object && !(heap.view.elements object).isNull &&
      heap.view.elements other = heap.view.elements object
  | reset | teardown => true
  | _ => false

/-- The list of an object after an operation on a list. -/
def edited (heap : Heap) (object : Handle) (values : List (Value Handle)) :
    Operation Handle → List (Value Handle)
  | pushElement target value =>
    match (Heap.pushElement target value heap).answer with
    | .ok _ => if target = object then values ++ [value] else values
    | .error _ => values
  | setElement target index value =>
    if target = object then values.set index.toNat value else values
  | _ => values

/-- The lists after one more operation. -/
def relist (heap : Heap) (known : Handle → Option (List (Value Handle)))
    (operation : Operation Handle) (object : Handle) : Option (List (Value Handle)) :=
  if operation.makes heap object then some []
  else if operation.touches heap object then none
  else (known object).map (operation.edited heap object)

end Operation

namespace Heap

/-- The lists of the objects that a run makes and does not give up. -/
def lists : Heap → (Handle → Option (List (Value Handle))) → List (Operation Handle) →
    Handle → Option (List (Value Handle))
  | _, known, [] => known
  | heap, known, operation :: rest =>
    lists (operation.perform heap).state (operation.relist heap known) rest

/-- No operation of a run touches the elements of an object. -/
def Spares (object : Handle) : Heap → List (Operation Handle) → Prop
  | _, [] => True
  | heap, operation :: rest =>
    operation.touches heap object = false ∧ Spares object (operation.perform heap).state rest

end Heap

/-! ## 3. One operation -/

namespace View

/-- What the elements of an object are kept in is left alone. -/
structure Untouched (object : Handle) (before after : View) : Prop where
  kind : after.kind? object = before.kind? object
  count : after.count object = before.count object
  elements : after.elements object = before.elements object
  array : (before.elements object).isNull = false → Rests (before.elements object) before after

theorem Untouched.lists {object : Handle} {before after : View} {values : List (Value Handle)}
    (untouched : Untouched object before after) (lists : before.Lists object values) :
    after.Lists object values :=
  lists.of_same untouched.kind untouched.count untouched.elements untouched.array

theorem Rests.untouched {object : Handle} {before after : View} (own : Rests object before after)
    (array : (before.elements object).isNull = false →
      Rests (before.elements object) before after) : Untouched object before after :=
  ⟨own.kind, own.field _, own.field _, array⟩

end View

namespace Heap

variable {heap : Heap} {object : Handle} {values : List (Value Handle)}

/-- The kind of the element array of a list. -/
theorem kind?_of_lists (lists : heap.view.Lists object values)
    (attached : (heap.view.elements object).isNull = false) :
    heap.kind? (heap.view.elements object) = some .elementArray := by
  rcases lists.cells with ⟨null, -⟩ | ⟨-, bytes, known, -⟩
  · rw [null] at attached
    cases attached
  · exact (contents_eq_ok known).1

/-- A write that changes neither the count of an object, nor its element array, nor what is in that. -/
theorem untouched_of_write {after : Heap} {target : Handle} (only : OnlyArena heap after)
    (others : ∀ {handle : Handle} {kind : RecordKind}, heap.kind? handle = some kind →
      kind = .object ∨ kind = .elementArray → handle ≠ target →
      View.Rests handle heap.view after.view)
    (lists : heap.view.Lists object values)
    (spared : Operation.overwrites heap after object target = false) :
    View.Untouched object heap.view after.view := by
  simp only [Operation.overwrites, Bool.or_eq_false_iff, Bool.and_eq_false_iff,
    decide_eq_false_iff_not, not_not] at spared
  obtain ⟨own, array⟩ := spared
  have array (attached : (heap.view.elements object).isNull = false) :
      View.Rests (heap.view.elements object) heap.view after.view := by
    by_cases same : target = heap.view.elements object
    · exact ⟨only.kind?_view _, same ▸ array.resolve_left (not_not.mpr same)⟩
    · exact others (kind?_of_lists lists attached) (.inr rfl) (Ne.symm same)
  by_cases same : target = object
  · obtain ⟨count, elements⟩ := own.resolve_left (not_not.mpr same)
    exact ⟨only.kind?_view _, count, elements, array⟩
  · have known : heap.kind? object = some .object := (kind?_view object).symm.trans lists.kind
    exact (others known (.inl rfl) (Ne.symm same)).untouched array

end Heap

namespace Operation

variable {heap : Heap} {object : Handle} {values : List (Value Handle)}

/-- What is done to the elements of another object, as long as those are in another array. -/
theorem elements_ne_of_spared {other : Handle} {value : Value Handle}
    {operation : Operation Handle} (differ : other ≠ object)
    (attached : (heap.view.elements object).isNull = false)
    (done : (∃ index, operation = .setElement other index value) ∨
      operation = .pushElement other value)
    (spared : operation.touches heap object = false) :
    heap.view.elements other ≠ heap.view.elements object := by
  rcases done with ⟨index, rfl⟩ | rfl <;> simpa [touches, differ, attached] using spared

theorem edited_of_ne {other : Handle} {value : Value Handle} (differ : other ≠ object) :
    (pushElement other value).edited heap object values = values := by
  simp only [edited, if_neg differ]
  split <;> rfl

/-- An operation edits the list of an object. An element array that is there stays, and one that is
attached was no record before. -/
structure Carries (heap : Heap) (object : Handle) (values : List (Value Handle))
    (operation : Operation Handle) : Prop where
  lists : (operation.perform heap).state.view.Lists object (operation.edited heap object values)
  elements : (operation.perform heap).state.view.elements object = heap.view.elements object ∨
    ((heap.view.elements object).isNull = true ∧ (∃ value, operation = .pushElement object value) ∧
      heap.handles.resolve ((operation.perform heap).state.view.elements object) = none)

theorem carries_of_untouched {operation : Operation Handle}
    (untouched : View.Untouched object heap.view (operation.perform heap).state.view)
    (lists : heap.view.Lists object values)
    (edited : operation.edited heap object values = values) :
    operation.Carries heap object values :=
  ⟨by rw [edited]; exact untouched.lists lists, .inl untouched.elements⟩

theorem carries_pushElement (sound : heap.Sound) (accounted : heap.handles.Accounted)
    (lists : heap.view.Lists object values) (value : Value Handle) :
    (pushElement object value).Carries heap object values := by
  have state : ((pushElement object value).perform heap).state =
      (Heap.pushElement object value heap).state := state_bind_pure ..
  obtain ⟨pushed, elements⟩ := sound.pushElement_cases accounted lists value
  rw [← state] at pushed elements
  refine ⟨?_, elements.imp id fun ⟨null, fresh⟩ => ⟨null, ⟨value, rfl⟩, fresh⟩⟩
  simp only [edited, if_true]
  generalize (Heap.pushElement object value heap).answer = answer,
    ((pushElement object value).perform heap).state = after at pushed ⊢
  cases pushed with
  | appended _ appended => exact appended
  | refused same => exact same

theorem carries_setElement (sound : heap.Sound) (lists : heap.view.Lists object values)
    (index : UInt32) (value : Value Handle) :
    (setElement object index value).Carries heap object values := by
  have state : ((setElement object index value).perform heap).state =
      (Heap.setElement object index value heap).state := state_bind_pure ..
  rcases sound.setElement_cases lists index value with ⟨-, -, replaced, same⟩ | ⟨beyond, run⟩
  · rw [← state] at replaced same
    exact ⟨by simpa only [edited, if_true] using replaced, .inl same⟩
  · rw [run] at state
    refine ⟨?_, .inl (by rw [state])⟩
    simp only [edited, if_true]
    rw [state, List.set_eq_of_length_le beyond]
    exact lists

section Apart

variable (lists : heap.view.Lists object values)
include lists

/-- The object and its element array are of two kinds. -/
theorem not_array_of_lists : ¬ heap.kind? object = some .elementArray := by
  have known : heap.kind? object = some .object := (kind?_view object).symm.trans lists.kind
  rw [known]
  decide

variable (sound : heap.Sound)
include sound

/-- What alters neither an object nor its element array leaves its list. -/
theorem untouched_of_unaltered {operation : Operation Handle} (onward : operation.rewinds = false)
    (own : ¬ operation.Alters heap object)
    (array : (heap.view.elements object).isNull = false →
      ¬ operation.Alters heap (heap.view.elements object)) :
    View.Untouched object heap.view (operation.perform heap).state.view :=
  have known : heap.kind? object = some .object := (kind?_view object).symm.trans lists.kind
  (rests_of_unaltered sound operation onward known (.inl rfl) own).untouched fun attached =>
    rests_of_unaltered sound operation onward (kind?_of_lists lists attached) (.inr rfl)
      (array attached)

/-- An element is appended to another object. -/
theorem carries_pushElement_other {target : Handle} {value : Value Handle} (other : target ≠ object)
    (spared : (pushElement target value).touches heap object = false) :
    (pushElement target value).Carries heap object values := by
  refine carries_of_untouched (untouched_of_unaltered lists sound rfl ?_ fun attached => ?_) lists
    (edited_of_ne other)
  · rintro (⟨same, -⟩ | ⟨-, array⟩)
    · exact other same.symm
    · exact not_array_of_lists lists array
  · rintro (⟨-, own⟩ | ⟨has, -⟩)
    · rw [kind?_of_lists lists attached] at own
      cases own
    · exact elements_ne_of_spared other attached (.inr rfl) spared
        (elements_of_has sound.toSeparated has).1

/-- An element of another object is replaced. -/
theorem carries_setElement_other {target : Handle} {index : UInt32} {value : Value Handle}
    (other : target ≠ object)
    (spared : (setElement target index value).touches heap object = false) :
    (setElement target index value).Carries heap object values := by
  refine carries_of_untouched (untouched_of_unaltered lists sound rfl ?_ fun attached => ?_) lists
    (if_neg other)
  · exact fun alters => not_array_of_lists lists alters.2
  · exact fun alters => elements_ne_of_spared other attached (.inl ⟨index, rfl⟩) spared
      (elements_of_has sound.toSeparated alters.1).1

theorem carries_set {layout : Layout} {scalar : Scalar} {target : Handle}
    {field : Field layout scalar} {value : scalar.Carrier Handle}
    (spared : (set target field value).touches heap object = false) :
    (set target field value).Carries heap object values := by
  have only : OnlyArena heap ((set target field value).perform heap).state :=
    (keeps_doing (onlyArena_set target field value)).step heap
  refine carries_of_untouched
    (untouched_of_write only (fun known data differ => ?_) lists spared) lists rfl
  exact rests_of_unaltered sound _ rfl known data fun alters => differ alters.1

theorem carries_overwrite {target : Handle} {start : Nat} {source : List UInt8}
    (spared : (overwrite target start source).touches heap object = false) :
    (overwrite target start source).Carries heap object values := by
  have only : OnlyArena heap ((overwrite target start source).perform heap).state :=
    (keeps_bind (onlyArena_overwrite target start source) fun _ => keeps_pure _).step heap
  refine carries_of_untouched
    (untouched_of_write only (fun known data differ => ?_) lists spared) lists rfl
  exact rests_of_unaltered sound _ rfl known data differ

/-- A record is ended that is neither the object nor its element array. -/
theorem carries_invalidate {target : Handle}
    (spared : (invalidate target).touches heap object = false) :
    (invalidate target).Carries heap object values := by
  simp only [touches, Bool.or_eq_false_iff, decide_eq_false_iff_not, Bool.and_eq_false_iff]
    at spared
  refine carries_of_untouched (untouched_of_unaltered lists sound rfl
    (fun own => spared.1 own.symm) fun attached own => ?_) lists rfl
  rcases spared.2 with differ | null
  · exact differ own.symm
  · have own : heap.view.elements object = target := own
    rw [own] at attached
    rw [attached] at null
    cases null

end Apart

/-- A list is edited by what does not touch it in another way. -/
theorem carries_perform (sound : heap.Sound) (accounted : heap.handles.Accounted)
    (lists : heap.view.Lists object values) (operation : Operation Handle)
    (spared : operation.touches heap object = false) : operation.Carries heap object values := by
  have onward : operation.rewinds = false := by cases operation <;> first | rfl | cases spared
  cases operation with
  | pushElement target value =>
    by_cases own : target = object
    · subst own
      exact carries_pushElement sound accounted lists value
    · exact carries_pushElement_other lists sound own spared
  | setElement target index value =>
    by_cases own : target = object
    · subst own
      exact carries_setElement sound lists index value
    · exact carries_setElement_other lists sound own spared
  | set => exact carries_set lists sound spared
  | overwrite => exact carries_overwrite lists sound spared
  | invalidate => exact carries_invalidate lists sound spared
  | reset | teardown => cases onward
  | _ =>
    exact carries_of_untouched (untouched_of_unaltered lists sound onward id fun _ => id) lists rfl

/-- A new object has the empty list. -/
theorem lists_of_makes (sound : heap.Sound) {operation : Operation Handle}
    (makes : operation.makes heap object = true) :
    (operation.perform heap).state.view.Lists object [] ∧
      ((operation.perform heap).state.view.elements object).isNull = true := by
  cases operation with
  | allocObject shape classId =>
    have state : ((allocObject shape classId).perform heap).state =
        (Heap.allocObject shape classId heap).state := state_bind_pure ..
    have ok : (Heap.allocObject shape classId heap).answer = .ok object := by
      simp only [Operation.makes] at makes
      split at makes
      · next made answer => rw [answer, of_decide_eq_true makes]
      · cases makes
    obtain ⟨-, props, known, -⟩ := sound.allocObject_ok ok
    rw [← state] at known
    have count := (field_of_contents known ObjectField.arrayCount).trans
      (read_newObject shape props classId (by decide) (by decide) (by decide) (by decide))
    have elements := (field_of_contents known ObjectField.arrayValues).trans
      (read_newObject shape props classId (by decide) (by decide) (by decide) (by decide))
    have null : (((allocObject shape classId).perform heap).state.view.elements object).isNull =
        true := by
      rw [View.elements, elements]
      rfl
    refine ⟨⟨(kind?_view object).trans (contents_eq_ok known).1, ?_, .inl ⟨null, rfl⟩⟩, null⟩
    rw [View.count, count]
    rfl
  | _ => cases makes

theorem relist_eq_some {known : Handle → Option (List (Value Handle))}
    {operation : Operation Handle} (listed : operation.relist heap known object = some values) :
    (operation.makes heap object = true ∧ values = []) ∨
      (operation.touches heap object = false ∧ ∃ before, known object = some before ∧
        values = operation.edited heap object before) := by
  unfold relist at listed
  split at listed
  · next makes => exact .inl ⟨makes, (Option.some.inj listed).symm⟩
  · split at listed
    · cases listed
    · next spared =>
      obtain ⟨before, known, edited⟩ := Option.map_eq_some_iff.mp listed
      exact .inr ⟨Bool.eq_false_iff.mpr spared, before, known, edited.symm⟩

end Operation

namespace Heap

variable {heap : Heap} {known : Handle → Option (List (Value Handle))}

/-- The known lists are those of their objects, which have different element arrays. -/
structure Listed (heap : Heap) (known : Handle → Option (List (Value Handle))) : Prop where
  lists : ∀ {object values}, known object = some values → heap.view.Lists object values
  apart : ∀ {object other values others}, known object = some values → known other = some others →
    heap.view.elements object = heap.view.elements other →
      (heap.view.elements object).isNull = false → object = other

theorem listed_of_none (none : ∀ object, known object = none) : heap.Listed known := by
  have unknown {object : Handle} {values : List (Value Handle)}
      (listed : known object = some values) : False := by
    rw [none] at listed
    cases listed
  exact ⟨fun listed => (unknown listed).elim, fun listed => (unknown listed).elim⟩

theorem listed_rewind {operation : Operation Handle} (rewinds : operation.rewinds = true) :
    (operation.perform heap).state.Listed (operation.relist heap known) :=
  listed_of_none fun object => by
    cases operation with
    | reset | teardown => rfl
    | _ => cases rewinds

theorem resolve_elements {object : Handle} {values : List (Value Handle)}
    (lists : heap.view.Lists object values)
    (attached : (heap.view.elements object).isNull = false) :
    heap.handles.resolve (heap.view.elements object) ≠ none := by
  obtain ⟨placement, resolved, -⟩ := kind?_eq_some (kind?_of_lists lists attached)
  rw [resolved]
  exact Option.some_ne_none placement

theorem Listed.perform (listed : heap.Listed known) (sound : heap.Sound)
    (accounted : heap.handles.Accounted) (operation : Operation Handle) :
    (operation.perform heap).state.Listed (operation.relist heap known) := by
  refine ⟨fun {object values} after => ?_,
    fun {object other values others} after after' same attached => ?_⟩
  · rcases Operation.relist_eq_some after with ⟨makes, rfl⟩ | ⟨spared, before, before', rfl⟩
    · exact (Operation.lists_of_makes sound makes).1
    · exact (Operation.carries_perform sound accounted (listed.lists before') operation spared).lists
  · have carried {object : Handle} {values : List (Value Handle)}
        (after : operation.relist heap known object = some values)
        (attached : ((operation.perform heap).state.view.elements object).isNull = false) :
        ∃ before, known object = some before ∧ operation.Carries heap object before := by
      rcases Operation.relist_eq_some after with ⟨makes, -⟩ | ⟨spared, before, before', -⟩
      · rw [(Operation.lists_of_makes sound makes).2] at attached
        cases attached
      · exact ⟨before, before',
          Operation.carries_perform sound accounted (listed.lists before') operation spared⟩
    obtain ⟨before, known', carries⟩ := carried after attached
    obtain ⟨before', known'', carries'⟩ := carried after' (same ▸ attached)
    -- An array that was attached by the operation named nothing before, so it is not the other's.
    rcases carries.elements with stays | ⟨-, ⟨value, rfl⟩, fresh⟩
    · rw [stays] at same attached
      rcases carries'.elements with stays' | ⟨-, -, fresh'⟩
      · exact listed.apart known' known'' (same.trans stays') attached
      · rw [← same] at fresh'
        exact absurd fresh' (resolve_elements (listed.lists known') attached)
    · rcases carries'.elements with stays' | ⟨-, ⟨value', pushes⟩, -⟩
      · rw [same, stays'] at fresh attached
        exact absurd fresh (resolve_elements (listed.lists known'') attached)
      · cases pushes
        rfl

/-! ## 4. A run -/

theorem lists_eq_follow (operations : List (Operation Handle)) :
    heap.lists known operations = heap.follow Operation.relist known operations := by
  induction operations generalizing heap known with
  | nil => rfl
  | cons operation rest ih => exact ih

theorem listed_run {requested : Nat} (tracked : heap.Tracked requested)
    (accounted : heap.handles.Accounted) (listed : requested < sizeLimit → heap.Listed known)
    (operations : List (Operation Handle))
    (few : (runCounting requested heap operations).1 < sizeLimit) :
    (heap.run operations).Listed (heap.lists known operations) := by
  rw [lists_eq_follow]
  exact holds_of_run Listed (fun _ _ _ rewinds => listed_rewind rewinds)
    (fun operation sound accounted _ listed => listed.perform sound accounted operation) tracked
    accounted listed operations few

theorem onward_of_spares {object : Handle} {operations : List (Operation Handle)}
    (spares : heap.Spares object operations) :
    ∀ operation ∈ operations, operation.rewinds = false := by
  induction operations generalizing heap with
  | nil => nofun
  | cons operation rest ih =>
    have quiet := spares.1
    refine List.forall_mem_cons.mpr ⟨?_, ih spares.2⟩
    cases operation <;> first | rfl | cases quiet

/-- An element array that is there stays through a run that does not touch it. -/
theorem elements_run {object : Handle} {values : List (Value Handle)} {requested : Nat}
    (tracked : heap.Tracked requested) (accounted : heap.handles.Accounted)
    (lists : heap.view.Lists object values)
    (attached : (heap.view.elements object).isNull = false) (operations : List (Operation Handle))
    (few : (runCounting requested heap operations).1 < sizeLimit)
    (spares : heap.Spares object operations) :
    (heap.run operations).view.kind? object = some .object ∧
      (heap.run operations).view.elements object = heap.view.elements object := by
  induction operations generalizing requested heap values with
  | nil => exact ⟨lists.kind, rfl⟩
  | cons operation rest ih =>
    have before : requested < sizeLimit :=
      Nat.lt_of_le_of_lt (le_runCounting requested heap (onward_of_spares spares)) few
    have carries := Operation.carries_perform (tracked.sound before).1 accounted lists operation
      spares.1
    have stays : (operation.perform heap).state.view.elements object = heap.view.elements object := by
      rcases carries.elements with stays | ⟨null, -⟩
      · exact stays
      · rw [attached] at null
        cases null
    have rest := ih (tracked.perform operation) (Accounted.perform accounted operation) carries.lists
      (by rwa [stays]) few spares.2
    exact ⟨rest.1, rest.2.trans stays⟩

theorem Sound.answer_setElement {object : Handle} {values : List (Value Handle)}
    (sound : heap.Sound) (lists : heap.view.Lists object values) (index : UInt32)
    (value : Value Handle) : (setElement object index value heap).answer =
      if index.toNat < values.length then .ok ()
      else .error (.refused (.indexOutOfBounds index (UInt32.ofNat values.length))) := by
  rcases sound.setElement_cases lists index value with ⟨inside, answer, -⟩ | ⟨beyond, run⟩
  · rw [if_pos inside, answer]
  · rw [if_neg (Nat.not_lt.mpr beyond), run]

theorem answer_elements {object : Handle} (sound : heap.Sound)
    (kind : heap.view.kind? object = some .object) :
    (heap.tryGet object ObjectField.arrayValues).answer = .ok (heap.view.elements object) := by
  have known := contents_of_kind? ((kind?_view object).symm.trans kind)
  rw [sound.tryGet_eq_pure known, View.elements, field_of_contents known]
  rfl

/-- After any run, the elements of an object that the run made and did not give up are the values of
its list. The count is the length, for which there is room, and elements are read, replaced and
appended accordingly. Once there is an element, the element array stays through every run that does
not touch it. What is done to the elements of other such objects does not touch it. -/
theorem lists_of_run {grants : Nat → Bool} {config : Config} {start : Heap}
    (made : (Heap.new grants config).answer = .ok start)
    (operations : List (Operation Handle)) (few : (runCounting 0 start operations).1 < sizeLimit)
    {object : Handle} {values : List (Value Handle)}
    (listed : start.lists (fun _ => none) operations object = some values) :
    let heap := start.run operations
    (values.length < 2 ^ 32 ∧ (heap.tryGet object ObjectField.arrayCount).answer =
        .ok (UInt32.ofNat values.length)) ∧
      (∃ capacity, (heap.elementCapacity object).answer = .ok capacity ∧
        values.length ≤ capacity.toNat) ∧
      (∀ index, (heap.element object index).answer =
        .ok (values[index.toNat]?.getD .undefined)) ∧
      (∀ index value, (setElement object index value heap).answer =
        if index.toNat < values.length then .ok ()
        else .error (.refused (.indexOutOfBounds index (UInt32.ofNat values.length)))) ∧
      (∀ value, (∃ count, (pushElement object value heap).answer = .ok count ∧
          count.toNat = values.length) ∨
        ∃ error, (pushElement object value heap).answer = .error (.refused error)) ∧
      (values ≠ [] → ∀ later, heap.Spares object later →
        (runCounting (runCounting 0 start operations).1 heap later).1 < sizeLimit →
        ((heap.run later).tryGet object ObjectField.arrayValues).answer =
          (heap.tryGet object ObjectField.arrayValues).answer) ∧
      ∀ other others, start.lists (fun _ => none) operations other = some others → other ≠ object →
        ∀ index value, (Operation.setElement other index value).touches heap object = false ∧
          (Operation.pushElement other value).touches heap object = false := by
  intro heap
  have reached : Reached config _ heap := reached_run (.new made) operations
  have tracked := tracked_of_reached reached
  have accounted := accounted_of_reached reached
  obtain ⟨sound, -⟩ := tracked.sound few
  have all : heap.Listed (start.lists (fun _ => none) operations) := listed_run (tracked_new made)
    (accounted_of_reached (.new made)) (fun _ => listed_of_none fun _ => rfl)
    operations few
  have lists := all.lists listed
  obtain ⟨record, known, count, -⟩ := contents_of_lists lists
  refine ⟨⟨lists.length ▸ UInt32.toNat_lt _, ?_⟩, sound.capacity_of_lists lists,
    sound.answer_element lists, sound.answer_setElement lists, fun value => ?_,
    fun some later spares few' => ?_, fun other others listed' differ index value => ?_⟩
  · rw [sound.tryGet_eq_pure known, count, lists.count_eq]
    rfl
  · obtain ⟨pushed, -⟩ := sound.pushElement_cases accounted lists value
    generalize (pushElement object value heap).answer = answer at pushed ⊢
    cases pushed with
    | appended length _ => exact .inl ⟨_, rfl, length⟩
    | refused _ => exact .inr ⟨_, rfl⟩
  · have attached : (heap.view.elements object).isNull = false := by
      rcases lists.cells with ⟨-, none⟩ | ⟨attached, -⟩
      · exact absurd none some
      · exact attached
    obtain ⟨kind, stays⟩ := elements_run tracked accounted lists attached later few' spares
    obtain ⟨sound', -⟩ := (tracked_of_reached (reached_run reached later)).sound few'
    rw [answer_elements sound' kind, answer_elements sound lists.kind, stays]
  · have apart (attached : (heap.view.elements object).isNull = false) :
        heap.view.elements other ≠ heap.view.elements object := fun same =>
      differ (all.apart listed listed' same.symm attached).symm
    cases null : (heap.view.elements object).isNull with
    | true => simp [Operation.touches, null]
    | false => simp [Operation.touches, apart null]

/-- A session with two objects, whose elements are appended in turn, replaced, and moved. -/
def listingSession : List (Operation Handle) :=
  [.allocObject .null 1, .allocObject .null 2, .pushElement ⟨1, 0⟩ (.int 5),
    .pushElement ⟨2, 0⟩ (.bool true), .pushElement ⟨1, 0⟩ (.int 6), .relocate ⟨3, 0⟩,
    .setElement ⟨1, 0⟩ 0 (.int 7), .setElement ⟨1, 0⟩ 2 (.int 8), .allocShape .null 0]

/-- The elements of the first object in that session. -/
theorem lists_small :
    (runCounting 0 newSmall listingSession).1 < sizeLimit ∧
      newSmall.lists (fun _ => none) listingSession ⟨1, 0⟩ = some [.int 7, .int 6] ∧
      ((newSmall.run listingSession).element ⟨1, 0⟩ 1).answer = .ok (.int 6) ∧
      ((newSmall.run listingSession).element ⟨1, 0⟩ 2).answer = .ok .undefined := by
  have few : (runCounting 0 newSmall listingSession).1 < sizeLimit := by decide +kernel
  have listed : newSmall.lists (fun _ => none) listingSession ⟨1, 0⟩ = some [.int 7, .int 6] := by
    decide +kernel
  have element := (lists_of_run new_small listingSession few listed).2.2.1
  exact ⟨few, listed, element 1, element 2⟩

end Heap

end HandleHeap
