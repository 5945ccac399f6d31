import HandleHeap.Heap.Basic

/-!
# Prototype chains

A walk visits an object, then its prototype, then the prototype of that, until there is none. The
body that is run at each object may change the heap, so the next object is read only after it.
At most `maxChainDepth` objects are visited: a chain that goes on is cyclic or corrupt.

* `Heap.walk` follows the links and passes each object.
* `Heap.walkWithShape` passes the shape of each object too and stops at an object without one.
* `Heap.search` stops at the first object that satisfies a test.
-/

namespace HandleHeap

/-- The most objects that one walk visits. -/
def maxChainDepth : Nat := 1000

/-- How a walk ended. `hops` counts the links followed from the start. -/
inductive ChainWalk (β : Type)
  | broke (value : β) (place : Handle) (hops : Nat)
  /-- The chain ended. `last` is the final object, null if the start was null-like. -/
  | ended (last : Handle) (visited : Nat)
  /-- An object had no shape, so that its prototype is unknown. -/
  | noShape (place : Handle) (hops : Nat)
  /-- The chain went on after as many objects as a walk may visit. -/
  | depthExceeded (last : Handle) (visited : Nat)
  deriving DecidableEq, Repr

inductive ChainSearch
  | found (object : Handle) (hops : Nat)
  | notFound (last : Handle) (visited : Nat)
  | depthExceeded (last : Handle) (visited : Nat)
  deriving DecidableEq, Repr

namespace ChainSearch

def isFound : ChainSearch → Bool
  | found .. => true
  | _ => false

def isDepthExceeded : ChainSearch → Bool
  | depthExceeded .. => true
  | _ => false

/-- The object found, or the last one examined. -/
def handle : ChainSearch → Handle
  | found object _ => object
  | notFound last _ | depthExceeded last _ => last

/-- The links followed to the object found, or the number of objects examined. -/
def count : ChainSearch → Nat
  | found _ hops => hops
  | notFound _ visited | depthExceeded _ visited => visited

/-- The object found, or nothing at the end of the chain. The depth bound is a refusal. -/
def result : ChainSearch → Except HeapError (Option Handle)
  | found object _ => .ok (some object)
  | notFound .. => .ok none
  | depthExceeded .. => .error .chainTooDeep

def ofWalk {β : Type} : ChainWalk β → ChainSearch
  | .broke _ object hops => found object hops
  | .ended last visited | .noShape last visited => notFound last visited
  | .depthExceeded last visited => depthExceeded last visited

end ChainSearch

namespace Heap

variable {σ β : Type}

/-- Walks on from `current`, at most `remaining` objects. The body takes and gives a state of its
own, and ends the walk by giving a value. -/
def walkFrom (start : Handle) (body : σ → Handle → HeapAction (σ × Option β))
    (remaining hops : Nat) (last current : Handle) (own : σ) : HeapAction (σ × ChainWalk β) :=
  if current.isNull then return (own, .ended last hops)
  else match remaining with
    | 0 => do
      Action.emit (.walkTooDeep start last)
      return (own, .depthExceeded last hops)
    | remaining + 1 => do
      match ← body own current with
      | (own, some value) => return (own, .broke value current hops)
      | (own, none) =>
        let next ← Action.look (·.prototype current)
        walkFrom start body remaining (hops + 1) current next own

/-- Runs a body on an object and on each prototype in turn. -/
def walk (start : Handle) (own : σ) (body : σ → Handle → HeapAction (σ × Option β)) :
    HeapAction (σ × ChainWalk β) :=
  walkFrom start body maxChainDepth 0 .null start own

/-- As `walkFrom`, but stopping at an object without a shape. The link is followed through the
shape that the object has after the body. -/
def walkWithShapeFrom (start : Handle)
    (body : σ → Handle → Handle → HeapAction (σ × Option β))
    (remaining hops : Nat) (last current : Handle) (own : σ) : HeapAction (σ × ChainWalk β) :=
  if current.isNull then return (own, .ended last hops)
  else match remaining with
    | 0 => do
      Action.emit (.walkTooDeep start last)
      return (own, .depthExceeded last hops)
    | remaining + 1 => do
      let shape ← Action.look (·.get current ObjectField.shape)
      if shape.isNull then return (own, .noShape current hops)
      match ← body own current shape with
      | (own, some value) => return (own, .broke value current hops)
      | (own, none) =>
        let shape ← Action.look (·.get current ObjectField.shape)
        let next ← Action.look (·.get shape ShapeField.proto)
        walkWithShapeFrom start body remaining (hops + 1) current next own

/-- Runs a body on an object and its shape, and on each prototype in turn. -/
def walkWithShape (start : Handle) (own : σ)
    (body : σ → Handle → Handle → HeapAction (σ × Option β)) : HeapAction (σ × ChainWalk β) :=
  walkWithShapeFrom start body maxChainDepth 0 .null start own

/-- Looks for the first object on a chain that satisfies a test. The test takes and gives a state
of its own, and sees the heap without changing it. -/
def search (start : Handle) (own : σ) (test : σ → Heap → Handle → Report Stop (σ × Bool)) :
    HeapAction (σ × ChainSearch) := do
  let (own, ended) ← walk start own fun own object => do
    let (own, holds) ← Action.look fun heap => test own heap object
    return (own, if holds then some () else none)
  return (own, .ofWalk ended)

/-- Whether an object is `start` or on its prototype chain. -/
def chainContains (start target : Handle) : HeapAction Bool := do
  let (_, ended) ← search start () fun _ _ object => pure ((), object = target)
  match ended.result with
  | .ok found => return found.isSome
  | .error e => Action.refuse e

end Heap

end HandleHeap
