import HandleHeap.Shape.Buckets
import Mathlib.Data.List.Nodup

/-!
# Bucket chains

An interned shape records its hash and the next shape of its bucket. `Chain` says which shapes are
met from one on along these links. `Interned` says that a list of shapes is what the buckets hold:
from the head of each bucket on, the shapes of the list whose hash selects it are met, in the order
of the list, and then null.

Two changes keep the buckets in order:

* `Interned.push`: a shape that points to the head of its bucket becomes the head;
* `Interned.unlink_first`, `Interned.unlink_inner`: the head of the bucket, or the link that leads
  to a shape, is made to skip it.
-/

namespace HandleHeap

/-- What the record of an interned shape says of its chain. -/
structure Link where
  hash : UInt32
  next : Handle
  deriving DecidableEq, Repr

/-! ## 1. Chains -/

variable {link? after : Handle → Option Link} {shapes : List Handle}

/-- The links lead from `start` through the shapes of a list to null. -/
def Chain (link? : Handle → Option Link) : List Handle → Handle → Prop
  | [], start => start = .null
  | shape :: rest, start =>
    start = shape ∧ ∃ link, link? shape = some link ∧ Chain link? rest link.next

theorem Chain.congr {start : Handle} (chain : Chain link? shapes start)
    (same : ∀ shape ∈ shapes, after shape = link? shape) : Chain after shapes start := by
  induction shapes generalizing start with
  | nil => exact chain
  | cons shape rest ih =>
    obtain ⟨first, link, known, tail⟩ := chain
    refine ⟨first, link, (same shape (by simp)).trans known, ih tail fun other listed => ?_⟩
    exact same other (by simp [listed])

/-- What follows a shape on its chain is a chain. -/
theorem Chain.tail (before : List Handle) {rest : List Handle} {shape start : Handle} {link : Link}
    (chain : Chain link? (before ++ shape :: rest) start) (known : link? shape = some link) :
    Chain link? rest link.next := by
  induction before generalizing start with
  | nil =>
    obtain ⟨-, found, known', chain⟩ := chain
    cases known.symm.trans known'
    exact chain
  | cons first before ih =>
    obtain ⟨-, _, -, rest⟩ := chain
    exact ih rest

/-- Making the link that leads to a shape skip it. -/
theorem Chain.skip {before rest : List Handle} {previous shape start : Handle}
    {link leading : Link} (chain : Chain link? (before ++ previous :: shape :: rest) start)
    (nodup : (before ++ previous :: shape :: rest).Nodup) (known : link? shape = some link)
    (leads : link? previous = some leading)
    (mended : after previous = some { leading with next := link.next })
    (others : ∀ other, other ≠ previous → other ≠ shape → after other = link? other) :
    Chain after (before ++ previous :: rest) start := by
  induction before generalizing start with
  | nil =>
    have tail := chain.tail [previous] known
    obtain ⟨same, -⟩ := chain
    simp only [List.nil_append, List.nodup_cons, List.mem_cons, not_or] at nodup
    refine ⟨same, _, mended, tail.congr fun other listed => others other ?_ ?_⟩
    · rintro rfl
      exact nodup.1.2 listed
    · rintro rfl
      exact nodup.2.1 listed
  | cons first before ih =>
    obtain ⟨same, found, known', chain⟩ := chain
    simp only [List.cons_append, List.nodup_cons, List.mem_append, List.mem_cons, not_or] at nodup
    obtain ⟨⟨-, other, other', -⟩, nodup⟩ := nodup
    exact ⟨same, found, (others first other other').trans known', ih chain nodup⟩

/-! ## 2. Buckets -/

namespace ShapeBuckets

variable {buckets : ShapeBuckets}

theorem lookup_filter_ne {heads : List (Nat × Handle)} {bucket other : Nat}
    (differ : other ≠ bucket) :
    (heads.filter fun entry => entry.1 != bucket).lookup other = heads.lookup other := by
  induction heads with
  | nil => rfl
  | cons entry rest ih =>
    obtain ⟨key, shape⟩ := entry
    by_cases same : key = bucket
    · have miss : (other == key) = false := beq_false_of_ne (same ▸ differ)
      simp [same, List.lookup_cons, ih, same ▸ miss]
    · simp [same, List.lookup_cons, ih]

theorem lookup_filter_self (heads : List (Nat × Handle)) (bucket : Nat) :
    (heads.filter fun entry => entry.1 != bucket).lookup bucket = none := by
  rw [List.lookup_eq_none_iff]
  intro entry kept
  have other := (List.mem_filter.mp kept).2
  simpa [bne_comm] using other

theorem head_setHead (buckets : ShapeBuckets) (bucket : Nat) (shape : Handle) (other : Nat) :
    (buckets.setHead bucket shape).head other =
      if other = bucket then if shape.isNull then .null else shape else buckets.head other := by
  unfold setHead head
  by_cases same : other = bucket
  · cases same
    cases null : shape.isNull <;> simp [lookup_filter_self]
  · have miss : (other == bucket) = false := beq_false_of_ne same
    cases null : shape.isNull <;> simp [same, List.lookup_cons, miss, lookup_filter_ne same]

/-- The buckets with a shape in front of the bucket of its hash. -/
def pushed (buckets : ShapeBuckets) (hash : UInt32) (shape : Handle) : ShapeBuckets :=
  { buckets.setHead (buckets.bucket hash) shape with hashed := buckets.hashed + 1 }

/-- Whether a shape is interned in a bucket. -/
def holds (buckets : ShapeBuckets) (link? : Handle → Option Link) (bucket : Nat)
    (shape : Handle) : Bool :=
  (link? shape).any fun link => buckets.bucket link.hash == bucket

/-- The buckets hold the shapes of a list, each bucket in the order of the list. -/
structure Interned (buckets : ShapeBuckets) (link? : Handle → Option Link)
    (shapes : List Handle) : Prop where
  nodup : shapes.Nodup
  issued : ∀ shape ∈ shapes, shape.isNull = false
  linked : ∀ shape, shape ∈ shapes ↔ (link? shape).isSome
  chain : ∀ bucket, Chain link? (shapes.filter (buckets.holds link? bucket)) (buckets.head bucket)
  count : buckets.hashed = shapes.length

theorem bucket_of_bits {other : ShapeBuckets} (bits : other.bits = buckets.bits) (hash : UInt32) :
    other.bucket hash = buckets.bucket hash := by
  rw [bucket, bucket, bits]

theorem holds_of_hash {other : ShapeBuckets} {shape : Handle} (bits : other.bits = buckets.bits)
    (same : (after shape).map Link.hash = (link? shape).map Link.hash) (bucket : Nat) :
    other.holds after bucket shape = buckets.holds link? bucket shape := by
  have any (link? : Handle → Option Link) (buckets : ShapeBuckets) :
      buckets.holds link? bucket shape =
        ((link? shape).map Link.hash).any fun hash => buckets.bucket hash == bucket := by
    rw [Option.any_map]
    rfl
  simp only [any, same, bucket_of_bits bits]

theorem holds_of_link {shape : Handle} {link : Link} (known : link? shape = some link)
    (bucket : Nat) : buckets.holds link? bucket shape = (buckets.bucket link.hash == bucket) := by
  rw [holds, known]
  rfl

namespace Interned

variable {shape : Handle} {link : Link}

theorem congr (h : buckets.Interned link? shapes) (same : ∀ shape, after shape = link? shape) :
    buckets.Interned after shapes := by
  obtain rfl : after = link? := funext same
  exact h

/-- No buckets hold anything. -/
theorem clear (none : ∀ shape, link? shape = none) : buckets.clear.Interned link? [] where
  nodup := List.nodup_nil
  issued := by simp
  linked shape := by simp [none shape]
  chain bucket := rfl
  count := rfl

/-- A shape that points to the head of its bucket becomes the head. -/
theorem push {hash : UInt32} (h : buckets.Interned link? shapes) (new : link? shape = none)
    (issued : shape.isNull = false)
    (linked : after shape = some ⟨hash, buckets.head (buckets.bucket hash)⟩)
    (others : ∀ other, other ≠ shape → after other = link? other) :
    (buckets.pushed hash shape).Interned after (shape :: shapes) := by
  have bits : (buckets.pushed hash shape).bits = buckets.bits := rfl
  have head (bucket : Nat) : (buckets.pushed hash shape).head bucket =
      if bucket = buckets.bucket hash then shape else buckets.head bucket := by
    have set := head_setHead buckets (buckets.bucket hash) shape bucket
    rwa [issued] at set
  have unlisted : shape ∉ shapes := by
    rw [h.linked, new]
    exact Bool.false_ne_true
  have apart {other : Handle} (listed : other ∈ shapes) : other ≠ shape := by
    rintro rfl
    exact unlisted listed
  refine ⟨List.nodup_cons.mpr ⟨unlisted, h.nodup⟩, ?_, fun other => ?_, fun bucket => ?_,
    congrArg (· + 1) h.count⟩
  · simp only [List.mem_cons, forall_eq_or_imp]
    exact ⟨issued, h.issued⟩
  · by_cases own : other = shape
    · simp [own, linked]
    · simp only [List.mem_cons, own, false_or, h.linked, others other own]
  · have chain : Chain after (shapes.filter (buckets.holds link? bucket)) (buckets.head bucket) :=
      (h.chain bucket).congr fun other listed => others other (apart (List.mem_filter.mp listed).1)
    have kept : shapes.filter ((buckets.pushed hash shape).holds after bucket) =
        shapes.filter (buckets.holds link? bucket) :=
      List.filter_congr fun other listed =>
        holds_of_hash bits (congrArg _ (others other (apart listed))) bucket
    have selected : (buckets.pushed hash shape).holds after bucket shape =
        (buckets.bucket hash == bucket) := by
      rw [holds_of_link linked, bucket_of_bits bits]
    rw [head]
    by_cases own : bucket = buckets.bucket hash
    · rw [← own, beq_self_eq_true] at selected
      rw [List.filter_cons_of_pos selected, kept, if_pos own]
      exact ⟨rfl, _, linked, own ▸ chain⟩
    · rw [beq_false_of_ne (Ne.symm own)] at selected
      rw [List.filter_cons_of_neg (Bool.eq_false_iff.mp selected), kept, if_neg own]
      exact chain

theorem mem_bucket (h : buckets.Interned link? shapes) (known : link? shape = some link) :
    shape ∈ shapes.filter (buckets.holds link? (buckets.bucket link.hash)) := by
  refine List.mem_filter.mpr ⟨(h.linked shape).mpr (by rw [known]; rfl), ?_⟩
  rw [holds_of_link known]
  exact beq_self_eq_true _

/-- A link leads to a shape or to null, not to another null-like handle. -/
theorem next_eq_null (h : buckets.Interned link? shapes) (known : link? shape = some link)
    (null : link.next.isNull = true) : link.next = .null := by
  have chain := h.chain (buckets.bucket link.hash)
  obtain ⟨before, others, inner⟩ := List.append_of_mem (h.mem_bucket known)
  rw [inner] at chain
  have rest := chain.tail before known
  cases others with
  | nil => exact rest
  | cons next others =>
    have listed : next ∈ shapes.filter (buckets.holds link? (buckets.bucket link.hash)) := by
      rw [inner]
      simp
    rw [rest.1, h.issued next (List.mem_filter.mp listed).1] at null
    cases null

/-- The head of a bucket is set to what follows a shape. -/
theorem head_setHead_next (h : buckets.Interned link? shapes) (known : link? shape = some link)
    (bucket : Nat) :
    (buckets.setHead (buckets.bucket link.hash) link.next).head bucket =
      if bucket = buckets.bucket link.hash then link.next else buckets.head bucket := by
  rw [head_setHead]
  cases null : link.next.isNull with
  | true => rw [if_pos rfl, h.next_eq_null known null]
  | false => rfl

/-- A shape is out of the buckets when the chains are those without it. -/
theorem unlink (h : buckets.Interned link? shapes) (known : link? shape = some link)
    (gone : after shape = none)
    (hashes : ∀ other, other ≠ shape → (after other).map Link.hash = (link? other).map Link.hash)
    {rest : ShapeBuckets} (bits : rest.bits = buckets.bits)
    (count : rest.hashed = buckets.hashed - 1)
    (chains : ∀ bucket,
      Chain after ((shapes.filter (buckets.holds link? bucket)).erase shape) (rest.head bucket)) :
    rest.Interned after (shapes.erase shape) := by
  have listed : shape ∈ shapes := by
    rw [h.linked, known]
    rfl
  refine ⟨h.nodup.erase shape, fun other left => h.issued other (List.mem_of_mem_erase left),
    fun other => ?_, fun bucket => ?_, ?_⟩
  · rw [h.nodup.mem_erase_iff]
    by_cases own : other = shape
    · simp [own, gone]
    · have same := congrArg Option.isSome (hashes other own)
      rw [Option.isSome_map, Option.isSome_map] at same
      simp only [ne_eq, own, not_false_eq_true, true_and, h.linked, same]
  · have kept : (shapes.erase shape).filter (rest.holds after bucket) =
        (shapes.filter (buckets.holds link? bucket)).erase shape := by
      rw [h.nodup.erase_eq_filter, (h.nodup.filter _).erase_eq_filter, List.filter_filter,
        List.filter_filter]
      refine List.filter_congr fun other _ => ?_
      by_cases own : other = shape
      · simp [own]
      · rw [holds_of_hash bits (hashes other own), Bool.and_comm]
    rw [kept]
    exact chains bucket
  · rw [count, h.count, List.length_erase_of_mem listed]

/-- The chain of another bucket is not affected. -/
theorem other_chain (h : buckets.Interned link? shapes) (known : link? shape = some link)
    {bucket : Nat} (other : bucket ≠ buckets.bucket link.hash)
    (same : ∀ other, buckets.holds link? (buckets.bucket link.hash) other = false →
      after other = link? other) :
    Chain after ((shapes.filter (buckets.holds link? bucket)).erase shape)
      (buckets.head bucket) := by
  have apart {other' : Handle} (listed : other' ∈ shapes.filter (buckets.holds link? bucket)) :
      buckets.holds link? (buckets.bucket link.hash) other' = false := by
    have held := (List.mem_filter.mp listed).2
    rw [Bool.eq_false_iff]
    intro held'
    unfold holds at held held'
    cases found : link? other' with
    | none => simp [found] at held
    | some link' =>
      simp only [found, Option.any_some, beq_iff_eq] at held held'
      exact other (held.symm.trans held')
  have unlisted : shape ∉ shapes.filter (buckets.holds link? bucket) := by
    intro listed
    have held := apart listed
    rw [holds_of_link known, beq_self_eq_true] at held
    cases held
  rw [List.erase_of_not_mem unlisted]
  exact (h.chain bucket).congr fun other' listed => same other' (apart listed)

/-- The head of a bucket is made to skip a shape that nothing leads to. -/
theorem unlink_first (h : buckets.Interned link? shapes) (known : link? shape = some link)
    {others : List Handle}
    (first : shapes.filter (buckets.holds link? (buckets.bucket link.hash)) = shape :: others)
    (gone : after shape = none) (same : ∀ other, other ≠ shape → after other = link? other)
    {rest : ShapeBuckets} (bits : rest.bits = buckets.bits)
    (count : rest.hashed = buckets.hashed - 1)
    (head : ∀ bucket, rest.head bucket =
      if bucket = buckets.bucket link.hash then link.next else buckets.head bucket) :
    rest.Interned after (shapes.erase shape) := by
  refine h.unlink known gone (fun other own => congrArg _ (same other own)) bits count
    fun bucket => ?_
  rw [head]
  by_cases own : bucket = buckets.bucket link.hash
  · cases own
    have chain := h.chain (buckets.bucket link.hash)
    have nodup := h.nodup.filter (buckets.holds link? (buckets.bucket link.hash))
    rw [first] at chain nodup
    rw [if_pos rfl, first, List.erase_cons_head]
    refine (chain.tail [] known).congr fun other listed => same other ?_
    rintro rfl
    exact (List.nodup_cons.mp nodup).1 listed
  · rw [if_neg own]
    refine h.other_chain known own fun other elsewhere => same other ?_
    rintro rfl
    rw [holds_of_link known, beq_self_eq_true] at elsewhere
    cases elsewhere

/-- The shape before another on its chain is made to skip it. -/
theorem unlink_inner (h : buckets.Interned link? shapes) (known : link? shape = some link)
    {before others : List Handle} {previous : Handle} {leading : Link}
    (inner : shapes.filter (buckets.holds link? (buckets.bucket link.hash)) =
      before ++ previous :: shape :: others)
    (leads : link? previous = some leading) (gone : after shape = none)
    (mended : after previous = some { leading with next := link.next })
    (same : ∀ other, other ≠ previous → other ≠ shape → after other = link? other)
    {rest : ShapeBuckets} (bits : rest.bits = buckets.bits)
    (count : rest.hashed = buckets.hashed - 1)
    (head : ∀ bucket, rest.head bucket = buckets.head bucket) :
    rest.Interned after (shapes.erase shape) := by
  have held : buckets.holds link? (buckets.bucket link.hash) previous = true := by
    have listed : previous ∈ before ++ previous :: shape :: others := by simp
    rw [← inner] at listed
    exact (List.mem_filter.mp listed).2
  refine h.unlink known gone (fun other own => ?_) bits count fun bucket => ?_
  · by_cases own' : other = previous
    · rw [own', mended, leads]
      rfl
    · exact congrArg _ (same other own' own)
  rw [head]
  by_cases own : bucket = buckets.bucket link.hash
  · cases own
    have chain := h.chain (buckets.bucket link.hash)
    have nodup := h.nodup.filter (buckets.holds link? (buckets.bucket link.hash))
    rw [inner] at chain nodup
    have unlisted : shape ∉ before ++ [previous] := by
      have apart := (List.nodup_append.mp (List.append_cons before previous _ ▸ nodup)).2.2
      exact fun listed => apart shape listed shape (by simp) rfl
    rw [inner, List.append_cons, List.erase_append_right _ unlisted, List.erase_cons_head,
      List.append_assoc]
    exact chain.skip nodup known leads mended same
  · refine h.other_chain known own fun other elsewhere => same other ?_ ?_
    · rintro rfl
      rw [held] at elsewhere
      cases elsewhere
    · rintro rfl
      rw [holds_of_link known, beq_self_eq_true] at elsewhere
      cases elsewhere

end Interned

end ShapeBuckets

end HandleHeap
