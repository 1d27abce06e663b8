import ServiceDiscovery.Registry

/-!
Scripts for a registry alone: requests are added under given ids, and records are named by labels.
-/
namespace ServiceDiscovery.Simulation

inductive ListStep
  | addBrowse (id : Int) (discovered : List (String × String))
  | addResolve (id : Int)
  | browse (id : Int)
  | resolve (id : Int)
  | popBrowse (id : Int)
  | popResolve (id : Int)
  | find (label : String)

structure Listing where
  registry : Registry := {}
  records : Records := {}
  labels : List (String × RecordId) := []

namespace Listing

def record (s : Listing) (label uuid : String) : RecordId × Listing :=
  match s.labels.lookup label with
  | some r => (r, s)
  | none =>
    let r := s.records.nextId
    (r, { s with records := s.records.add (.named uuid), labels := s.labels ++ [(label, r)] })

def tracked (s : Listing) (found : List (String × RecordId)) :
    List (String × String) → List (String × RecordId) × Listing
  | [] => (found, s)
  | (name, label) :: rest =>
    let (r, s) := s.record label name
    s.tracked (BrowseRequest.putRecord name r found) rest

def browseRequest (id : Int) (discovered : List (String × RecordId)) : BrowseRequest :=
  { id, handle := 0, constraints := {}, client := ⟨0, true, true, .null⟩, discovered }

def resolveRequest (id : Int) : ResolveRequest := ⟨id, 0, 0, 0, ⟨0, true, true, .null⟩⟩

def adding (s : Listing) (outcome : Except Fault Registry) : Except Fault (Option Int) × Listing :=
  match outcome with
  | .ok registry => (.ok none, { s with registry })
  | .error f => (.error f, s)

def act (s : Listing) : ListStep → Except Fault (Option Int) × Listing
  | .addBrowse id discovered =>
    let (found, s) := s.tracked [] discovered
    s.adding (s.registry.addBrowse (browseRequest id found))
  | .addResolve id => s.adding (s.registry.addResolve (resolveRequest id))
  | .browse id => (.ok ((s.registry.browses.get? id).map (·.id)), s)
  | .resolve id => (.ok ((s.registry.resolves.get? id).map (·.id)), s)
  | .popBrowse id =>
    let (q, registry) := s.registry.popBrowse id
    (.ok (q.map (·.id)), { s with registry })
  | .popResolve id =>
    let (q, registry) := s.registry.popResolve id
    (.ok (q.map (·.id)), { s with registry })
  | .find label =>
    let known := s.labels.lookup label
    let r := known.getD s.records.nextId
    let uuid := (known.map fun r => (s.records.get r).uuid).getD label
    (.ok ((s.registry.findDiscovered uuid r).map (·.id)), s)

def run : List ListStep → Listing → List (Except Fault (Option Int) × Registry)
  | [], _ => []
  | t :: rest, s =>
    let (answer, s) := s.act t
    (answer, s.registry) :: run rest s

end Listing
end ServiceDiscovery.Simulation
