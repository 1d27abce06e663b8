import ServiceDiscovery.Simulation.Bench

/-!
How a simulation begins: the sessions, the provider that they use and the network behind it.
-/
namespace ServiceDiscovery.Simulation
open ServiceDiscovery.Multicast

inductive Supply
  | scripted
  /-- One engine for all of them, over a network that was opened for it. -/
  | engine (settings : Settings.ProviderSettings)
  | own

structure Setup where
  uuids : List String
  supply : Supply := .scripted
  codec : Txt.Codec := {}
  decisions : List (Operation × Option Int) := []
  neighbours : Neighbours := {}
  unavailable : Bool := false
  openFault : Option SystemError := none
  selectorFault : Option Fault := none

namespace Setup

def session (s : Setup) (ownsProvider : Bool) (n : Nat) (uuid : String) : Session :=
  { uuid, own := n, codec := s.codec, ownsProvider }

def bench (s : Setup) (ownsProvider : Bool) (backing : Backing) : Bench where
  world := { backing, neighbours := s.neighbours, selectorFault := s.selectorFault }
  actors := s.uuids.mapIdx fun n uuid => ⟨s.session ownsProvider n uuid, [], []⟩
  records := ⟨s.uuids.map Record.named⟩

def start (s : Setup) : Except String (List Entry × Bench) :=
  match s.supply with
  | .scripted => .ok ([], s.bench false (.scripted { decisions := s.decisions }))
  | .engine settings =>
    if s.unavailable then .error Multicast.unavailable
    else .ok ([.networkGiven], s.bench false (.engine (.sharing settings)))
  | .own =>
    if s.unavailable then .error Multicast.unavailable
    else match Engine.make {} s.openFault with
      | (.error why, _) => .error why
      | (.ok e, effects) =>
        let opening := (s.uuids.map fun _ => effects.map Entry.ofEffect).flatten
        .ok (opening, s.bench true (.engine e))

end Setup
end ServiceDiscovery.Simulation
