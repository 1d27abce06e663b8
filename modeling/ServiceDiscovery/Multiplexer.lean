import ServiceDiscovery.Provider

/-!
Waiting on several handles at once. The multiplexer maps descriptors to handles and keeps the
selector, which does the waiting, in step with its map.
-/
namespace ServiceDiscovery

structure Selector where
  registered : List (Int × Handle) := []
  deriving DecidableEq, Repr

namespace Selector

/-- Every descriptor counts as one that can be watched, as that of a handle is while its operation
runs. -/
def register (s : Selector) (descriptor : Int) (h : Handle) : Except Fault Selector :=
  if (s.registered.lookup descriptor).isSome then .error (.descriptorKnown descriptor)
  else .ok ⟨s.registered ++ [(descriptor, h)]⟩

def unregister (s : Selector) (descriptor : Int) : Except Fault Selector :=
  if (s.registered.lookup descriptor).isSome then .ok ⟨s.registered.filter (·.1 != descriptor)⟩
  else .error (.descriptorUnknown descriptor)

def ready (s : Selector) (reported : List Int) : List (Int × Handle) :=
  reported.filterMap fun d => (s.registered.lookup d).map (d, ·)

end Selector

structure Multiplexer where
  watched : List (Int × Handle) := []
  selector : Selector := {}
  closed : Bool := false
  deriving DecidableEq, Repr

namespace Multiplexer

def size (m : Multiplexer) : Nat := m.watched.length

def put (descriptor : Int) (h : Handle) : List (Int × Handle) → List (Int × Handle)
  | [] => [(descriptor, h)]
  | e :: es => if e.1 = descriptor then (descriptor, h) :: es else e :: put descriptor h es

def descriptorOf? (m : Multiplexer) (h : Handle) : Option Int :=
  (m.watched.find? (·.2 == h)).map (·.1)

def contains (m : Multiplexer) (h : Handle) : Bool := (m.descriptorOf? h).isSome

def isWatching (m : Multiplexer) (descriptor : Int) (h : Handle) : Bool :=
  m.watched.lookup descriptor == some h

/-- Starts watching a handle. A descriptor that another handle had before is taken over. The flag
says whether anything was done, and a fault is that of the selector. -/
def add (m : Multiplexer) (h : Handle) (descriptor : Int) : Except Fault Bool × Multiplexer :=
  let previous := m.watched.lookup descriptor
  if previous = some h then (.ok false, m)
  else
    match if previous.isSome then m.selector.unregister descriptor else .ok m.selector with
    | .error f => (.error f, m)
    | .ok freed =>
      match freed.register descriptor h with
      | .error f => (.error f, { m with selector := freed })
      | .ok taken => (.ok true, { m with selector := taken, watched := put descriptor h m.watched })

def remove (m : Multiplexer) (h : Handle) : Option Int × Multiplexer :=
  match m.descriptorOf? h with
  | none => (none, m)
  | some d =>
    (some d, { m with watched := m.watched.filter (·.1 != d),
                      selector := (m.selector.unregister d).toOption.getD m.selector })

def ready (m : Multiplexer) (reported : List Int) : List (Int × Handle) :=
  if m.closed then [] else m.selector.ready reported

/-- What a wait comes to, by what the selector reports or fails with. The selector is not asked once
the multiplexer is closed, nor about a time that is too large. -/
def wait (m : Multiplexer) (timeoutMs : Int) (reported : List Int) (fault : Option Fault) :
    Except Fault (List (Int × Handle)) :=
  if m.closed then .ok []
  else if timeLimit ≤ timeoutMs.natAbs then .error .waitTooLong
  else match fault with
    | some f => .error f
    | none => .ok (m.ready reported)

def close (m : Multiplexer) : Multiplexer := { m with watched := [], closed := true }

end Multiplexer
end ServiceDiscovery
