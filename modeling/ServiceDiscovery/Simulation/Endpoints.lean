import ServiceDiscovery.Simulation.Changes

/-!
Scripts for the multicast engine alone: operations are started, pumped and closed without a session.
-/
namespace ServiceDiscovery.Simulation
open ServiceDiscovery.Multicast

inductive EngineStep
  | start (c : Call) (reactions : List (List EngineStep))
  | pump (handle : String)
  | close (handle : String)
  | shutdown
  | change (c : Change)
  | fail

namespace EngineStep

def name : EngineStep → String
  | start (.browse ..) _ => "browse"
  | start (.resolve ..) _ => "resolve"
  | start (.register ..) _ => "register"
  | pump _ => "pump"
  | close _ => "close"
  | shutdown => "shutdown"
  | change c => c.name
  | fail => "raise"

mutual
def weight : EngineStep → Nat
  | start _ reactions => 2 + weightAll reactions
  | change (.emit _ _ _ count) => 2 + count
  | _ => 2
def weightList : List EngineStep → Nat
  | [] => 1
  | s :: ss => s.weight + weightList ss
def weightAll : List (List EngineStep) → Nat
  | [] => 1
  | l :: ls => weightList l + weightAll ls
end

end EngineStep

structure Endpoints where
  world : World
  /-- What the client of each handle is still going to do, one list for each reply. -/
  hooks : List (List (List EngineStep)) := []

namespace Endpoints

def note (s : Endpoints) (e : Entry) : Endpoints := { s with world := s.world.note e }

def engine (s : Endpoints) : Engine :=
  match s.world.backing with
  | .engine e => e
  | .scripted _ => {}

def withHandle (s : Endpoints) (label : String) (f : Handle → Answer × Endpoints) :
    Answer × Endpoints :=
  match s.world.handle? label with
  | some h => f h
  | none => (.error (.unknownLabel label), s)

def start (s : Endpoints) (c : Call) (reactions : List (List EngineStep)) : Answer × Endpoints :=
  let (answer, world, entries) := s.world.answer 0 ⟨c, .register⟩
  let world := world.noteAll entries
  match answer with
  | .started h _ =>
    let world := { world with labelled := world.labelled ++ [h] }
    (.ok (.text (world.handleLabel h)),
      { s with world, hooks := s.hooks ++ [reactions] })
  | .refused r => (.error (.fault (.refused r)), { s with world })
  | .raised f => (.error (.fault f), { s with world })

def shutdown (s : Endpoints) : Answer × Endpoints :=
  let fault := if s.engine.ownsNetwork then s.world.neighbours.closeFault else none
  let (e, effects) := s.engine.close
  (match fault with
    | some f => .error (.fault (.system f))
    | none => .ok .null, { s with world := s.world.withEffects e effects })

def reaction (s : Endpoints) (h : Handle) : List EngineStep × Endpoints :=
  match s.hooks[h]? with
  | some (now :: later) => (now, { s with hooks := s.hooks.set h later })
  | _ => ([], s)

def callbackFailed : Fault := .failed "callback failure"

mutual
/-- Delivers a batch; the replies left are lost if the client code fails. -/
def deliver : Nat → Handle → List Reply → Endpoints → Answer × Endpoints
  | 0, _, _, s => (.ok .null, s)
  | fuel + 1, h, batch, s =>
    match s.engine.nextReply h batch with
    | none => (.ok .null, s)
    | some (r, rest) =>
      let (steps, s) := (s.note (.replied r)).reaction h
      match performAll fuel steps s with
      | (true, s) => (.error (.fault callbackFailed), s)
      | (false, s) => deliver fuel h rest s

def performAll : Nat → List EngineStep → Endpoints → Bool × Endpoints
  | 0, _, s => (false, s)
  | _, [], s => (false, s)
  | _, .fail :: _, s => (true, s)
  | fuel + 1, t :: rest, s =>
    let (a, s) := perform fuel t s
    performAll fuel rest (s.note (.did t.name a))

def perform : Nat → EngineStep → Endpoints → Answer × Endpoints
  | 0, _, s => (.ok .null, s)
  | fuel + 1, .pump label, s =>
    match s.world.handle? label with
    | none => (.error (.unknownLabel label), s)
    | some h =>
      let (batch, e) := s.engine.take h
      let s := { s with world := s.world.withEffects e [] }
      match batch with
      | .ok batch => deliver fuel h batch s
      | .error r => (.error (.fault (.refused r)), s)
  | _, .start c reactions, s => s.start c reactions
  | _, .close label, s => s.withHandle label fun h =>
    (.ok .null, { s with world := s.world.release h })
  | _, .shutdown, s => s.shutdown
  | _, .change c, s =>
    let (a, world) := s.world.change c
    (a, { s with world })
  | _, .fail, s => (.ok .null, s)
end

structure StepResult where
  answer : Answer
  entries : List Entry
  handles : List (Bool × Bool)

def handles (s : Endpoints) : List (Bool × Bool) :=
  s.engine.endpoints.map fun p => (p.queue.closed, p.queue.isReady)

def runSteps (fuel : Nat) : List EngineStep → Endpoints → List StepResult
  | [], _ => []
  | t :: rest, s =>
    let (answer, s) := perform fuel t s
    let (entries, world) := s.world.collect
    let s := { s with world }
    ⟨answer, entries, s.handles⟩ :: runSteps fuel rest s

def fuelOf (steps : List EngineStep) : Nat :=
  let w := EngineStep.weightList steps
  10 * (w + 2) * (w + 2)

def run (steps : List EngineStep) (s : Endpoints) : List StepResult :=
  runSteps (fuelOf steps) steps s

structure Setup where
  settings : Settings.ProviderSettings := {}
  shared : Bool := false
  neighbours : Neighbours := {}
  unavailable : Bool := false
  openFault : Option SystemError := none

def Setup.start (s : Setup) : List Entry × Except String Endpoints :=
  let given := if s.shared then [Entry.networkGiven] else []
  let around (e : Engine) : Endpoints := ⟨{ backing := .engine e, neighbours := s.neighbours }, []⟩
  if s.unavailable then (given, .error Multicast.unavailable)
  else if s.shared then (given, .ok (around (.sharing s.settings)))
  else match Engine.make s.settings s.openFault with
    | (.error why, effects) => (effects.map Entry.ofEffect, .error why)
    | (.ok e, effects) => (effects.map Entry.ofEffect, .ok (around e))

end Endpoints
end ServiceDiscovery.Simulation
