import ServiceDiscovery.Simulation.Changes

/-!
Sessions in a simulated world, driven by a script: every call is followed to its end, through the
waits, pumps and callbacks in between and the reactions of the clients.
-/
namespace ServiceDiscovery.Simulation
open ServiceDiscovery.Multicast

structure Actor where
  session : Session
  stack : List Frame := []
  pumps : List Pump := []

structure Hook where
  session : Nat
  reactions : List (List Step)

structure Bench where
  world : World
  actors : List Actor := []
  records : Records := {}
  /-- Records in the order in which they were first written down. -/
  labelled : List RecordId := []
  hooks : List Hook := []

namespace Bench

def note (b : Bench) (e : Entry) : Bench := { b with world := b.world.note e }

def label (b : Bench) (r : RecordId) : String × Bench :=
  match b.labelled.idxOf? r with
  | some i => (s!"r{i + 1}", b)
  | none => (s!"r{b.labelled.length + 1}", { b with labelled := b.labelled ++ [r] })

def labelledRecord? (b : Bench) (label : String) : Option RecordId :=
  (List.range b.labelled.length).findSome? fun i => if s!"r{i + 1}" == label then
    b.labelled[i]? else none

def tell (b : Bench) (i : Invocation) : Bench :=
  let peer (kind : String) (id : Int) (r : RecordId) : Bench :=
    let (label, b) := b.label r
    b.note (.told (.peer kind id label (b.records.get r).shown) i.client.userData)
  match i.what with
  | .added id r => peer "ADDED" id r
  | .removed id r => peer "REMOVED" id r
  | .resolved id r => peer "RESOLVED" id r
  | .registered => b.note (.told .registered i.client.userData)
  | .failed _ id code message transient =>
    b.note (.told (.failed id code message transient) i.client.userData)

def loop (b : Bench) (a : Actor) : Loop := ⟨a.session, b.records, a.stack⟩

def move (b : Bench) (sd : Nat) (m : Move) (starts : List Entry) : Option Outcome × Bench :=
  match b.actors[sd]? with
  | none => (some (.ok none), b)
  | some a =>
    let (l, outputs) := (b.loop a).step b.world.closeFaults m
    let (begun, world) := b.world.absorb starts outputs
    let actor : Actor := ⟨l.session, l.stack, World.pumpsAfter a.pumps begun l.stack⟩
    let b := { b with world := world.labelWatched l.session.mux, records := l.records,
                      actors := b.actors.set sd actor }
    let b := outputs.foldl (fun b o => match o with | .invoke i => b.tell i | _ => b) b
    (outputs.findSome? fun o => match o with | .returned r => some r | _ => none, b)

def wait (b : Bench) (sd : Nat) (a : Actor) (timeoutMs : Int) : Option Outcome × Bench :=
  let (fault, world) := b.world.wait a.session.mux timeoutMs
  { b with world }.move sd (.waited (world.reported a.session.mux) fault) []

def pump (b : Bench) (sd : Nat) (a : Actor) (h : Handle) : Option Outcome × Bench :=
  match a.pumps with
  | [] => b.move sd (.pumped .delivered) []
  | p :: outer =>
    match b.world.continuePump h p with
    | (.error e, world) => { b with world }.move sd (.pumped e) []
    | (.ok (r, p), world) =>
      let b := { b with world, actors := b.actors.set sd { a with pumps := p :: outer } }
      match world.replyTo? h with
      | some address => b.move sd (.reply address r) []
      | none => b.move sd (.pumped .delivered) []

def reaction (b : Bench) (i : Invocation) : Nat × List Step × Bench :=
  match b.hooks[i.client.ticket]? with
  | none => (0, [], b)
  | some k =>
    match k.reactions with
    | [] => (k.session, [], b)
    | now :: later =>
      (k.session, now,
        { b with hooks := b.hooks.set i.client.ticket { k with reactions := later } })

def client (b : Bench) (sd : Nat) (l : Listener) (reactions : List (List Step)) : Client × Bench :=
  (⟨b.hooks.length, l.onResult, l.onError, l.userData⟩,
    { b with hooks := b.hooks ++ [⟨sd, reactions⟩] })

def recordOf (b : Bench) (a : Actor) (told : Option RecordId) : RecordName →
    Except Trouble (RecordId × Bench)
  | .labelled l =>
    match b.labelledRecord? l with
    | some r => .ok (r, b)
    | none => .error (.unknownLabel l)
  | .own => .ok (a.session.own, b)
  | .fresh uuid => .ok (b.records.nextId, { b with records := b.records.add (.named uuid) })
  | .told =>
    match told with
    | some r => .ok (r, b)
    | none => .error (if a.session.closed then .fault (.closed a.session.uuid) else .noRecord)

def requestOf (b : Bench) (sd : Nat) (a : Actor) (told : Option RecordId)
    (reactions : List (List Step)) :
    Ask → Except Trouble (Request × Bench)
  | .announce ad l =>
    let (c, b) := b.client sd l reactions
    .ok (.announce ad c, b)
  | .browse k l =>
    let (c, b) := b.client sd l reactions
    .ok (.browse k c, b)
  | .resolve r l =>
    (b.recordOf a told r).map fun (target, b) =>
      let (c, b) := b.client sd l reactions
      (.resolve target c, b)
  | .cancel id => .ok (.cancel id, b)
  | .run timeoutMs => .ok (.run timeoutMs, b)
  | .close => .ok (.close, b)
  | .scope => .ok (.close, b)

def request (b : Bench) (sd : Nat) (a : Actor) (r : Request) : Option Outcome × Bench :=
  match (b.loop a).startRequest? r with
  | none => b.move sd (.request r (.refused ⟨ErrorCode.noError, ""⟩)) []
  | some asked =>
    let (answer, world, starts) := b.world.answer sd asked
    { b with world }.move sd (.request r answer) starts

def change (b : Bench) (c : Change) : Answer × Bench :=
  let (answer, world) := b.world.change c
  (answer, { b with world })

mutual
def drive : Nat → Nat → Bench → Outcome × Bench
  | 0, _, b => (.ok none, b)
  | fuel + 1, sd, b =>
    match b.actors[sd]? with
    | none => (.ok none, b)
    | some a =>
      match a.stack with
      | .waiting timeoutMs :: _ => ended fuel sd (b.wait sd a timeoutMs)
      | .pumping _ h :: _ => ended fuel sd (b.pump sd a h)
      | .notifying i _ :: _ =>
        let (raised, b) := react fuel i b
        ended fuel sd (b.move sd (.finish raised) [])
      | _ => (.ok none, b)

def ended : Nat → Nat → Option Outcome × Bench → Outcome × Bench
  | _, _, (some o, b) => (o, b)
  | 0, _, (none, b) => (.ok none, b)
  | fuel + 1, sd, (none, b) => drive fuel sd b

def react : Nat → Invocation → Bench → Bool × Bench
  | 0, _, b => (false, b)
  | fuel + 1, i, b =>
    let told := match i.what with
      | .added _ r => some r
      | .removed _ r => some r
      | .resolved _ r => some r
      | _ => none
    let (sd, steps, b) := b.reaction i
    performAll fuel sd told steps b

def performAll : Nat → Nat → Option RecordId → List Step → Bench → Bool × Bench
  | 0, _, _, _, b => (false, b)
  | _, _, _, [], b => (false, b)
  | _, _, _, .fail :: _, b => (true, b)
  | fuel + 1, sd, told, s :: rest, b =>
    let (a, b) := perform fuel sd told s b
    performAll fuel sd told rest (b.note (.did s.name a))

def perform : Nat → Nat → Option RecordId → Step → Bench → Answer × Bench
  | 0, _, _, _, b => (.ok .null, b)
  | _, _, _, .fail, b => (.ok .null, b)
  | fuel + 1, _, _, .change _ (.deliver label r), b =>
    match b.world.handle? label with
    | none => (.error (.unknownLabel label), b)
    | some h =>
      match b.world.replyTo? h with
      | none => (.ok .null, b)
      | some address =>
        let sd := b.world.owner h
        let (o, b) := ended fuel sd (b.move sd (.reply address r) [])
        (.ofOutcome o, b)
  | _, _, _, .change _ c, b => b.change c
  | fuel + 1, sd, told, .ask session ask reactions, b =>
    let sd := session.getD sd
    match b.actors[sd]? with
    | none => (.ok .null, b)
    | some a =>
      match b.requestOf sd a told reactions ask with
      | .error t => (.error t, b)
      | .ok (r, b) =>
        let (o, b) := ended fuel sd (b.request sd a r)
        match ask, o with
        | .scope, .ok _ => (.ok (.bool true), b)
        | _, o => (.ofOutcome o, b)
end

def fuelOf (steps : List Step) : Nat :=
  let w := Step.weightList steps
  10 * (w + 2) * (w + 2)

structure BrowseView where
  id : Int
  handle : String
  discovered : List (String × String × ServiceState)

structure ResolveView where
  id : Int
  handle : String
  browseId : Int
  record : String

structure SessionView where
  own : Record
  closed : Bool
  browses : List BrowseView
  resolves : List ResolveView
  watching : List String

def viewDiscovered (b : Bench) : List (String × RecordId) →
    List (String × String × ServiceState) × Bench
  | [] => ([], b)
  | (name, r) :: rest =>
    let (label, b) := b.label r
    let (later, b) := b.viewDiscovered rest
    ((name, label, (b.records.get r).state) :: later, b)

def viewBrowses (b : Bench) : List BrowseRequest → List BrowseView × Bench
  | [] => ([], b)
  | q :: rest =>
    let (discovered, b) := b.viewDiscovered q.discovered
    let (later, b) := b.viewBrowses rest
    (⟨q.id, b.world.handleLabel q.handle, discovered⟩ :: later, b)

def viewResolves (b : Bench) : List ResolveRequest → List ResolveView × Bench
  | [] => ([], b)
  | q :: rest =>
    let (label, b) := b.label q.target
    let (later, b) := b.viewResolves rest
    (⟨q.id, b.world.handleLabel q.handle, q.browseId, label⟩ :: later, b)

def view (b : Bench) (s : Session) : SessionView × Bench :=
  let (browses, b) := b.viewBrowses s.registry.browses.values
  let (resolves, b) := b.viewResolves s.registry.resolves.values
  (⟨(b.records.get s.own).shown, s.closed, browses, resolves,
    s.mux.watched.map fun p => b.world.handleLabel p.2⟩, b)

structure StepResult where
  answer : Answer
  entries : List Entry
  view : SessionView

def runSteps (fuel : Nat) : List Step → Bench → List StepResult
  | [], _ => []
  | s :: rest, b =>
    let sd := s.session?.getD 0
    let (answer, b) := perform fuel sd none s b
    let (entries, world) := b.world.collect
    let b := { b with world }
    match b.actors[sd]? with
    | none => runSteps fuel rest b
    | some a =>
      let (view, b) := b.view a.session
      ⟨answer, entries, view⟩ :: runSteps fuel rest b

def run (steps : List Step) (b : Bench) : List StepResult := runSteps (fuelOf steps) steps b

end Bench
end ServiceDiscovery.Simulation
