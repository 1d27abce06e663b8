import ServiceDiscovery.Simulation.World

/-!
Scripts for a multiplexer alone: handles are labels with a descriptor, and stay ready once they are.
-/
namespace ServiceDiscovery.Simulation

inductive WatchAction
  | add
  | remove
  | ready (count : Int)
  | wait (timeoutMs : Int)
  | isWatching (descriptor : Int)
  | contains
  /-- The selector loses a descriptor without the multiplexer knowing. -/
  | yank (descriptor : Int)
  | close

structure WatchStep where
  label : String := ""
  descriptor : Option Int := none
  action : WatchAction

structure Watching where
  labels : List String := []
  world : World := { backing := .scripted {} }
  mux : Multiplexer := {}

inductive WatchAnswer
  | done
  | descriptor (d : Int)
  | flag (b : Bool)
  | ready (pairs : List (Int × String))

namespace Watching

def modify (s : Watching) (h : Handle) (f : ScriptedHandle → ScriptedHandle) : Watching :=
  match s.world.backing with
  | .scripted p => { s with world := { s.world with backing := .scripted (p.modify h f) } }
  | .engine _ => s

def handle (s : Watching) (label : String) : Handle × Watching :=
  match s.labels.idxOf? label with
  | some h => (h, s)
  | none =>
    match s.world.backing with
    | .scripted p =>
      let p := { p with handles := p.handles ++ [{ replyTo := .register, descriptor := 0 }] }
      (s.labels.length,
        { s with labels := s.labels ++ [label], world := { s.world with backing := .scripted p } })
    | .engine _ => (0, s)

def descriptorOf (s : Watching) (h : Handle) : Int :=
  match s.world.backing with
  | .scripted p => ((p.handle? h).map (·.descriptor)).getD 0
  | .engine _ => 0

def found (s : Watching) (ready : List (Int × Handle)) : WatchAnswer :=
  .ready (ready.map fun p => (p.1, (s.labels[p.2]?).getD ""))

def act (s : Watching) (h : Handle) : WatchAction → Except Fault WatchAnswer × Watching
  | .add =>
    let d := s.descriptorOf h
    let (outcome, mux) := s.mux.add h d
    (outcome.map fun _ => .descriptor d, { s with mux })
  | .remove => (.ok .done, { s with mux := (s.mux.remove h).2 })
  | .ready count => (.ok .done, s.modify h fun k => { k with posted := 0 < count })
  | .wait timeoutMs =>
    let (fault, world) := s.world.wait s.mux timeoutMs
    ((s.mux.wait timeoutMs (world.reported s.mux) fault).map s.found, { s with world })
  | .isWatching d => (.ok (.flag (s.mux.isWatching d h)), s)
  | .contains => (.ok (.flag (s.mux.contains h)), s)
  | .yank d =>
    match s.mux.selector.unregister d with
    | .ok selector => (.ok .done, { s with mux := { s.mux with selector } })
    | .error f => (.error f, s)
  | .close => (.ok .done, { s with mux := s.mux.close })

def run : List WatchStep → Watching → List (Except Fault WatchAnswer × Nat)
  | [], _ => []
  | t :: rest, s =>
    let (h, s) := s.handle t.label
    let s := match t.descriptor with
      | some d => s.modify h fun k => { k with descriptor := d }
      | none => s
    let (answer, s) := s.act h t.action
    (answer, s.mux.size) :: run rest s

end Watching
end ServiceDiscovery.Simulation
