import HandleHeap.Proofs.Heap.Intact
import HandleHeap.Proofs.Shape.Linking
import Mathlib.Data.Nat.Find

/-!
# Where links lead

The links of a bucket are fields of records that anyone may overwrite. They may lead to records that
are gone or are no shapes, or back to where they came from. Two things hold all the same: from what
is no shape no link leads anywhere, so all but the last that is met is alive; and what is met twice
is met again and again.

* `linked_ne_of_first`: up to where something is met first, nothing is met twice.
* `le_live_of_distinct`: what is met without repetition is no more than what is alive.
* `Path`: the links lead through the shapes of a list and end. `Path.nodup`, `Path.eq_of_follower`:
  on such a list each shape has a place of its own, and what follows it tells which it is.
* `Path.skip`: making the link that leads to a shape skip it.
-/

namespace HandleHeap.Heap

open HandleHeap.Action

variable {heap after : Heap} {shape start : Handle} {bucket : Nat}

/-! ## 1. Links -/

/-- The link of every shape of an intact heap can be read. -/
theorem Intact.legible (intact : heap.Intact) : heap.Legible := by
  intro shape
  obtain ⟨next, read⟩ := intact.exists_answer_get shape ShapeField.hashNext
  rw [follower, read]

/-- Nothing follows a null-like handle. -/
theorem follower_of_null (null : shape.isNull = true) : heap.follower shape = .null := by
  rw [follower, answer_get_null heap null]
  rfl

/-- Only a shape that is there leads anywhere. -/
theorem Intact.kind?_of_follower (intact : heap.Intact)
    (leads : (heap.follower shape).isNull = false) : heap.kind? shape = some .shape := by
  refine kind?_of_tryGet (tryGet_of_get (intact.legible shape) fun null => ?_)
  rw [null] at leads
  cases leads

/-- Links that came to an end lead nowhere any more. -/
theorem linked_isNull_of_le {near far : Nat} (le : near ≤ far)
    (null : (heap.linked bucket near).isNull = true) :
    (heap.linked bucket far).isNull = true := by
  induction far, le using Nat.le_induction with
  | base => exact null
  | succ far _ ih => rw [linked, follower_of_null ih]; rfl

theorem linked_isNull_of_ge {near far : Nat} (le : near ≤ far)
    (some : (heap.linked bucket far).isNull = false) :
    (heap.linked bucket near).isNull = false := by
  cases null : (heap.linked bucket near).isNull with
  | false => rfl
  | true => exact absurd (linked_isNull_of_le le null) (Bool.eq_false_iff.mp some)

/-- Where two distances lead to the same, all that follows is the same. -/
theorem linked_add_eq {near far : Nat} (same : heap.linked bucket near = heap.linked bucket far)
    (more : Nat) : heap.linked bucket (near + more) = heap.linked bucket (far + more) := by
  induction more with
  | zero => exact same
  | succ more ih => exact congrArg heap.follower ih

/-! ## 2. Repetition -/

/-- Up to where something is met for the first time nothing is met twice. -/
theorem linked_ne_of_first {p : Handle → Prop} {distance : Nat}
    (first : ∀ nearer < distance, ¬ p (heap.linked bucket nearer))
    (there : p (heap.linked bucket distance)) {near far : Nat} (less : near < far)
    (le : far ≤ distance) : heap.linked bucket near ≠ heap.linked bucket far := by
  intro same
  have again := linked_add_eq same (distance - far)
  rw [Nat.add_sub_cancel' le] at again
  refine first (near + (distance - far)) ?_ (again ▸ there)
  exact (Nat.add_lt_add_right less _).trans_eq (Nat.add_sub_cancel' le)

/-- After what was met twice nothing is met that was not met before. -/
theorem exists_linked_of_repeat {near far : Nat} (less : near < far)
    (same : heap.linked bucket near = heap.linked bucket far) (distance : Nat) :
    ∃ before < far, heap.linked bucket before = heap.linked bucket distance := by
  induction distance using Nat.strongRecOn with
  | ind distance ih =>
    rcases Nat.lt_or_ge distance far with inside | beyond
    · exact ⟨distance, inside, rfl⟩
    · have back : near + (distance - far) < distance :=
        (Nat.add_lt_add_right less _).trans_eq (Nat.add_sub_cancel' beyond)
      obtain ⟨before, early, met⟩ := ih _ back
      refine ⟨before, early, met.trans ?_⟩
      rw [linked_add_eq same, Nat.add_sub_cancel' beyond]

/-- What is met twice is met for ever. -/
theorem linked_isNull_of_repeat {near far : Nat} (less : near < far)
    (same : heap.linked bucket near = heap.linked bucket far)
    (some : (heap.linked bucket near).isNull = false) (distance : Nat) :
    (heap.linked bucket distance).isNull = false := by
  obtain ⟨before, early, met⟩ := exists_linked_of_repeat less same distance
  rw [← met]
  exact linked_isNull_of_ge early.le (same ▸ some)

/-- Records that are met without repetition are no more than are alive. -/
theorem le_live_of_distinct (accounted : heap.handles.Accounted) {length : Nat}
    (live : ∀ distance < length, heap.handles.isLive (heap.linked bucket distance) = true)
    (distinct : ∀ near far, near < far → far < length →
      heap.linked bucket near ≠ heap.linked bucket far) : length ≤ heap.handles.live := by
  have nodup : ((List.range length).map (heap.linked bucket)).Nodup := by
    refine List.Nodup.map_on (fun near inside far inside' same => ?_) List.nodup_range
    rcases Nat.lt_trichotomy near far with less | eq | more
    · exact absurd same (distinct near far less (List.mem_range.mp inside'))
    · exact eq
    · exact absurd same.symm (distinct far near more (List.mem_range.mp inside))
  have few := HandleTable.length_le_live accounted nodup fun shape listed => by
    obtain ⟨distance, inside, rfl⟩ := List.mem_map.mp listed
    exact live distance (List.mem_range.mp inside)
  rwa [List.length_map, List.length_range] at few

/-- What the links come to, they come to without repetition, and within the bound of a search: all
but the last step of the shortest way there are from living shapes. -/
theorem Intact.exists_first (intact : heap.Intact) {p : Handle → Prop} {distance : Nat}
    (there : p (heap.linked bucket distance))
    (some : ∀ shape, p shape → shape.isNull = false) :
    ∃ nearest ≤ heap.handles.live, p (heap.linked bucket nearest) ∧
      ∀ nearer < nearest,
        ¬ p (heap.linked bucket nearer) ∧ (heap.linked bucket nearer).isNull = false := by
  classical
  have met : ∃ distance, p (heap.linked bucket distance) := ⟨distance, there⟩
  have here := Nat.find_spec met
  have first (nearer : Nat) (less : nearer < Nat.find met) : ¬ p (heap.linked bucket nearer) :=
    Nat.find_min met less
  have onward {nearer : Nat} (le : nearer ≤ Nat.find met) :
      (heap.linked bucket nearer).isNull = false :=
    linked_isNull_of_ge le (some _ here)
  have few : Nat.find met ≤ heap.handles.live := le_live_of_distinct intact.handles
    (fun nearer less => isLive_of_kind? (intact.kind?_of_follower (onward less)))
    fun near far less inside => linked_ne_of_first first here less inside.le
  exact ⟨Nat.find met, few, here, fun nearer less => ⟨first nearer less, onward less.le⟩⟩

/-! ## 3. Paths -/

/-- The links lead from `start` through the shapes of a list, and then to a null-like handle. -/
def Path (heap : Heap) : List Handle → Handle → Prop
  | [], start => start.isNull = true
  | shape :: rest, start =>
    start = shape ∧ start.isNull = false ∧ heap.Path rest (heap.follower shape)

variable {shapes rest before : List Handle}

/-- A path from what is not null has it in front. -/
theorem Path.eq_cons (path : heap.Path shapes start) (some : start.isNull = false) :
    ∃ rest, shapes = start :: rest ∧ heap.Path rest (heap.follower start) := by
  cases shapes with
  | nil => exact absurd path (Bool.eq_false_iff.mp some)
  | cons shape rest =>
    obtain ⟨rfl, -, path⟩ := path
    exact ⟨rest, rfl, path⟩

/-- There is one path from a handle at most. -/
theorem Path.unique {other : List Handle} (path : heap.Path shapes start)
    (path' : heap.Path other start) : shapes = other := by
  induction shapes generalizing start other with
  | nil =>
    cases other with
    | nil => rfl
    | cons => exact absurd path (Bool.eq_false_iff.mp path'.2.1)
  | cons shape rest ih =>
    obtain ⟨rfl, some, path⟩ := path
    obtain ⟨rest', rfl, onward⟩ := path'.eq_cons some
    rw [ih path onward]

/-- What follows a shape on a path is a path. -/
theorem Path.tail (path : heap.Path (before ++ shape :: rest) start) :
    heap.Path rest (heap.follower shape) := by
  induction before generalizing start with
  | nil => exact path.2.2
  | cons first before ih => exact ih path.2.2

/-- No shape is on a path twice: what follows it would be longer than itself. -/
theorem Path.nodup (path : heap.Path shapes start) : shapes.Nodup := by
  induction shapes generalizing start with
  | nil => exact List.nodup_nil
  | cons shape rest ih =>
    have onward : heap.Path rest (heap.follower shape) := path.2.2
    refine List.nodup_cons.mpr ⟨fun again => ?_, ih onward⟩
    obtain ⟨before, behind, rfl⟩ := List.append_of_mem again
    have same := congrArg List.length (onward.unique onward.tail)
    simp only [List.length_append, List.length_cons] at same
    omega

/-- On a path, what follows a shape tells which shape it is. -/
theorem Path.eq_of_follower (path : heap.Path shapes start) {other : Handle}
    (listed : shape ∈ shapes) (listed' : other ∈ shapes)
    (same : heap.follower shape = heap.follower other) : shape = other := by
  obtain ⟨before, behind, split⟩ := List.append_of_mem listed
  obtain ⟨before', behind', split'⟩ := List.append_of_mem listed'
  have onward : heap.Path behind (heap.follower shape) := (split ▸ path).tail
  have onward' : heap.Path behind' (heap.follower other) := (split' ▸ path).tail
  cases onward.unique (same ▸ onward')
  -- The lists agree behind the two shapes, so they agree at them.
  rw [List.append_cons] at split split'
  have fronts := List.append_inj_left' (split.symm.trans split') rfl
  have ends := (List.append_inj' fronts rfl).2
  exact (List.cons.inj ends).1

theorem Path.congr (path : heap.Path shapes start)
    (same : ∀ shape ∈ shapes, after.follower shape = heap.follower shape) :
    after.Path shapes start := by
  induction shapes generalizing start with
  | nil => exact path
  | cons shape rest ih =>
    obtain ⟨first, some, path⟩ := path
    refine ⟨first, some, ?_⟩
    rw [same shape List.mem_cons_self]
    exact ih path fun other listed => same other (List.mem_cons_of_mem shape listed)

/-- Making the link that leads to a shape skip it. -/
theorem Path.skip {previous : Handle}
    (path : heap.Path (before ++ previous :: shape :: rest) start)
    (mended : after.follower previous = heap.follower shape)
    (others : ∀ other ∈ before ++ rest, after.follower other = heap.follower other) :
    after.Path (before ++ previous :: rest) start := by
  induction before generalizing start with
  | nil =>
    obtain ⟨first, some, -, -, path⟩ := path
    refine ⟨first, some, ?_⟩
    rw [mended]
    exact path.congr others
  | cons head before ih =>
    obtain ⟨first, some, path⟩ := path
    refine ⟨first, some, ?_⟩
    rw [others head (List.mem_append_left _ List.mem_cons_self)]
    exact ih path fun other listed => others other (List.mem_cons_of_mem head listed)

/-- The links of a bucket meet the shapes of its path, and then null-like handles alone. -/
theorem Path.linked_mem (path : heap.Path shapes (heap.buckets.head bucket)) (distance : Nat) :
    heap.linked bucket distance ∈ shapes ∨ (heap.linked bucket distance).isNull = true := by
  induction distance with
  | zero =>
    cases shapes with
    | nil => exact .inr path
    | cons shape rest => exact .inl (path.1 ▸ List.mem_cons_self)
  | succ distance ih =>
    rcases ih with listed | null
    · obtain ⟨before, behind, split⟩ := List.append_of_mem listed
      have onward := (split ▸ path).tail
      cases null : (heap.linked bucket (distance + 1)).isNull with
      | true => exact .inr rfl
      | false =>
        obtain ⟨rest, rfl, -⟩ := onward.eq_cons null
        refine .inl ?_
        rw [split]
        exact List.mem_append_right _ (List.mem_cons_of_mem _ List.mem_cons_self)
    · exact .inr (linked_isNull_of_le (Nat.le_succ distance) null)

/-- Where the links of a bucket come to an end, there is a path. -/
theorem exists_path {near far : Nat} (le : near ≤ far)
    (null : (heap.linked bucket far).isNull = true) :
    ∃ shapes, heap.Path shapes (heap.linked bucket near) := by
  induction le using Nat.decreasingInduction with
  | self => exact ⟨[], null⟩
  | of_succ near _ ih =>
    obtain ⟨rest, path⟩ := ih
    cases here : (heap.linked bucket near).isNull with
    | true => exact ⟨[], here⟩
    | false => exact ⟨heap.linked bucket near :: rest, rfl, here, path⟩

end HandleHeap.Heap
