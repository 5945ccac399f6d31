import HandleHeap.Arena.Block
import HandleHeap.Error
import HandleHeap.Handle

/-!
# Events

What the heap tells an observer while it works. An event is data; `Event.level`, `Event.target`,
`Event.message` and `Event.fields` say how it is reported. Nothing in the heap depends on events.
-/

namespace HandleHeap

/-- A slot of the root set. -/
structure RootId where
  index : Nat
  deriving DecidableEq, Repr, Inhabited

def RootId.describe (id : RootId) : String := "RootId(" ++ toString id.index ++ ")"

/-- Something an observer is told. -/
inductive Event
  | arenaReady (capacity : Nat)
  /-- A reservation moved the offset past the capacity. -/
  | arenaExhausted (requested offset capacity : Nat)
  | arenaReset (freed : Nat) (epoch : UInt32)
  | arenaTornDown
  /-- A block's contents went to a fresh block. -/
  | reallocated (old fresh : Block) (copied : Nat)
  | allocated (kind : RecordKind) (size : Nat) (handle : Handle)
  /-- A handle named no record where a record of kind `expected` was needed. -/
  | unresolved (handle : Handle) (expected : RecordKind)
  | kindMismatch (handle : Handle) (expected found : RecordKind)
  /-- A record moved to a longer block. -/
  | grew (handle : Handle) (old fresh : Block)
  /-- A record moved to another block of the same length. -/
  | relocated (handle : Handle) (old fresh : Block)
  | heapReset (invalidated : Nat)
  /-- The shape for a prototype was found (`hit`) or made. -/
  | interned (hit : Bool) (proto shape : Handle)
  /-- A shape was invalidated while its bucket could not be mended. -/
  | unhashFailed (handle : Handle) (error : HeapError)
  | rootAdded (id : RootId) (handle : Handle)
  | walkTooDeep (start last : Handle)
  deriving DecidableEq, Repr

inductive Level
  | trace
  | debug
  | info
  | warn
  deriving DecidableEq, Repr

def Level.describe : Level → String
  | .trace => "TRACE"
  | .debug => "DEBUG"
  | .info => "INFO"
  | .warn => "WARN"

namespace Event

/-- How much the event matters. -/
def level : Event → Level
  | .arenaReady .. | .arenaReset .. | .arenaTornDown | .heapReset .. => .info
  | .arenaExhausted .. | .kindMismatch .. | .unhashFailed .. => .warn
  | .unresolved .. | .grew .. | .relocated .. | .walkTooDeep .. => .debug
  | .reallocated .. | .allocated .. | .interned .. | .rootAdded .. => .trace

/-- The part of the heap that the event comes from. -/
def target : Event → String
  | .arenaReady .. | .arenaExhausted .. | .arenaReset .. | .arenaTornDown | .reallocated .. =>
    "heap_js::arena"
  | .allocated .. => "heap_js::alloc"
  | .unresolved .. | .kindMismatch .. => "heap_js::deref"
  | .grew .. | .relocated .. => "heap_js::relocate"
  | .heapReset .. => "heap_js::heap"
  | .interned .. | .unhashFailed .. => "heap_js::shapes"
  | .rootAdded .. => "heap_js::roots"
  | .walkTooDeep .. => "heap_js::proto_chain"

/-- The sentence of the event. Interning has none: its fields say it all. -/
def message : Event → Option String
  | .arenaReady .. => some "arena initialized"
  | .arenaExhausted .. => some "arena exhausted"
  | .arenaReset .. => some "arena reset"
  | .arenaTornDown => some "arena torn down"
  | .reallocated .. => some "reallocated"
  | .allocated .. => some "allocated record"
  | .unresolved .. => some "handle did not resolve"
  | .kindMismatch .. => some "record kind mismatch"
  | .grew .. => some "grew record"
  | .relocated .. => some "relocated record"
  | .heapReset .. => some "heap reset"
  | .interned .. => none
  | .unhashFailed .. => some "could not unhash invalidated shape"
  | .rootAdded .. => some "added root"
  | .walkTooDeep .. => some "prototype chain walk exceeded depth bound"

/-- The named details of the event, as text. -/
def fields : Event → List (String × String)
  | .arenaReady capacity => [("capacity", toString capacity)]
  | .arenaExhausted requested offset capacity =>
    [("requested", toString requested), ("offset", toString offset),
      ("capacity", toString capacity)]
  | .arenaReset freed epoch => [("freed", toString freed), ("epoch", toString epoch.toNat)]
  | .arenaTornDown => []
  | .reallocated old fresh copied =>
    [("old", old.describe), ("fresh", fresh.describe), ("copied", toString copied)]
  | .allocated kind size handle =>
    [("kind", kind.describe), ("size", toString size), ("handle", handle.describe)]
  | .unresolved handle expected =>
    [("handle", handle.describe), ("null", toString handle.isNull),
      ("expected", expected.describe)]
  | .kindMismatch handle expected found =>
    [("handle", handle.describe), ("expected", expected.describe), ("found", found.describe)]
  | .grew handle old fresh | .relocated handle old fresh =>
    [("handle", handle.describe), ("old", old.describe), ("fresh", fresh.describe)]
  | .heapReset invalidated => [("invalidated", toString invalidated)]
  | .interned hit proto shape =>
    [("cache_hit", toString hit), ("proto", proto.describe), ("shape", shape.describe)]
  | .unhashFailed handle error => [("handle", handle.describe), ("err", error.message)]
  | .rootAdded id handle => [("id", id.describe), ("handle", handle.describe)]
  | .walkTooDeep start last => [("start", start.describe), ("last", last.describe)]

end Event

end HandleHeap
