import ServiceDiscovery.Command.Start
import ServiceDiscovery.Settings.File
import ServiceDiscovery.Simulation.Changes
import ServiceDiscovery.Simulation.Directory

/-!
The whole command in a simulated world: it runs in a directory, every wait lets the next entry of a
timeline happen, and after the last one a signal asks it to stop.
-/
namespace ServiceDiscovery.Simulation
open ServiceDiscovery.Command ServiceDiscovery.Multicast

inductive Happening
  | change (c : Change)
  | signal (name : String)

structure Rehearsal where
  run : Run
  world : World
  pumps : List Pump := []
  timeline : List (List Happening) := []
  /-- After the timeline every wait brings a signal to stop. -/
  stopAtEnd : Bool := true

namespace Rehearsal

def note (starts : List Entry) (s : Option Pump × World) : Event → Option Pump × World
  | .session o =>
    let (begun, world) := s.2.absorb starts [o]
    (begun.or s.1, world)
  | .print line => (s.1, s.2.note (.printed line))
  | .notice n => (s.1, s.2.note (.log n))
  | .closeProvider => (s.1, s.2.closeProvider)
  | _ => s

def step (r : Rehearsal) (i : Input) (starts : List Entry) : Rehearsal :=
  let (run, events) := r.run.step r.world.closeFaults i
  let (begun, world) := events.foldl (note starts) (none, r.world)
  { r with run, world := world.labelWatched run.loop.session.mux,
           pumps := World.pumpsAfter r.pumps begun run.loop.stack }

def happen (s : Option Fault × Rehearsal) (h : Happening) : Option Fault × Rehearsal :=
  match s, h with
  | (some f, r), _ => (some f, r)
  | (none, r), .signal name => (none, r.step (.signal name) [])
  | (none, r), .change c =>
    match r.world.change c with
    | (.error (.fault f), world) => (some f, { r with world })
    | (_, world) => (none, { r with world })

def upcoming (r : Rehearsal) : List Happening × Rehearsal :=
  match r.timeline with
  | now :: later => (now, { r with timeline := later })
  | [] => (if r.stopAtEnd then [.signal "SIGTERM"] else [], r)

def wait (r : Rehearsal) (timeoutMs : Int) : Rehearsal :=
  let mux := r.run.loop.session.mux
  let (fault, r) := match r.world.refuse mux timeoutMs with
    | (some fault, world) => (fault, { r with world })
    | (none, world) =>
      let (coming, r) := { r with world }.upcoming
      match coming.foldl happen (none, r) with
      | (some f, r) => (some f, r)
      | (none, r) =>
        let (fault, world) := r.world.elapse mux timeoutMs
        (fault, { r with world })
  r.step (.world (.waited (r.world.reported mux) fault)) []

def pump (r : Rehearsal) (h : Handle) : Rehearsal :=
  match r.pumps with
  | [] => r.step (.world (.pumped .delivered)) []
  | p :: outer =>
    match r.world.continuePump h p with
    | (.error e, world) => { r with world }.step (.world (.pumped e)) []
    | (.ok (reply, p), world) =>
      let r := { r with world, pumps := p :: outer }
      match world.replyTo? h with
      | some address => r.step (.world (.reply address reply)) []
      | none => r.step (.world (.pumped .delivered)) []

def proceed (r : Rehearsal) : Rehearsal :=
  let asked := r.run.request?.bind r.run.loop.startRequest?
  match asked with
  | none => r.step (.proceed r.world.seconds (.refused ⟨ErrorCode.noError, ""⟩)) []
  | some request =>
    let (answer, world, starts) := r.world.answer 0 request
    { r with world }.step (.proceed world.seconds answer) starts

def drive : Nat → Rehearsal → Option Ending × Rehearsal
  | 0, r => (none, r)
  | fuel + 1, r =>
    match r.run.stage with
    | .ended e => (some e, r)
    | _ =>
      if r.run.isWaiting then
        match r.run.loop.stack with
        | .waiting timeoutMs :: _ => drive fuel (r.wait timeoutMs)
        | .pumping _ h :: _ => drive fuel (r.pump h)
        | _ => (none, r)
      else drive fuel r.proceed

end Rehearsal

structure Scene where
  arguments : List String
  directory : Directory
  parse : Settings.Parser := Yaml.readBytes
  ownsEngine : Bool := false
  decisions : List (Operation × Option Int) := []
  neighbours : Neighbours := {}
  unavailable : Bool := false
  openFault : Option SystemError := none
  timeline : List (List Happening) := []
  stopAtEnd : Bool := true
  time : String

inductive Conclusion
  | halted (h : CommandLine.Halt)
  /-- An error in the settings that nothing answers for. -/
  | rejected (e : Settings.SourceError)
  | unlogged (e : SystemError)
  | ran (e : Ending)

structure Performance where
  conclusion : Conclusion
  entries : List Entry := []
  clock : Int := 0

namespace Scene

def circumstances (s : Scene) : Circumstances :=
  ⟨s.parse, s.directory.view, s.directory.outlets, s.neighbours.host.name, s.time⟩

def backing (s : Scene) (settings : Settings.ProviderSettings) :
    Except String Backing × List Entry :=
  if s.ownsEngine then
    if s.unavailable then (.error Multicast.unavailable, [])
    else
      let (made, effects) := Engine.make settings s.openFault
      (made.map Backing.engine, effects.map Entry.ofEffect)
  else (.ok (.scripted { decisions := s.decisions }), [])

def fuel (s : Scene) (plan : Plan) : Nat :=
  let weight (h : Happening) : Nat := match h with
    | .change c => Step.weight (.change none c)
    | .signal _ => 1
  let w := s.timeline.length + s.timeline.flatten.foldl (fun w h => w + weight h) 0
  100 * (w + 2) * (w + 2) + 10 * (if s.stopAtEnd then 0 else plan.exitAfterMs.toNat)

def written (s : Scene) (routing : Logging.Routing) (fd : Int → String) : Entry → List Entry
  | .log n => (routing.emit s.time (.ofNotice fd n)).map Entry.written
  | e => [e]

def follow (s : Scene) (o : Opened) (plan : Plan) (backing : Backing) (before : List Entry) :
    Performance :=
  let world : World := { backing, neighbours := s.neighbours }
  let (ending, r) := Rehearsal.drive (s.fuel plan)
    { run := .start plan, world := world.noteAll before, timeline := s.timeline,
      stopAtEnd := s.stopAtEnd }
  ⟨.ran (ending.getD (.exit 0)),
    o.written.map Entry.written ++ r.world.seen.reverse.flatMap
      (s.written o.routing world.descriptorText), r.world.clock⟩

def perform (s : Scene) : Performance :=
  match Options.read s.arguments with
  | .error h => { conclusion := .halted h }
  | .ok options =>
    match start s.circumstances options with
    | .rejected e =>
      if e.isContained then { conclusion := .ran (.exit 1), entries := [.printed e.message] }
      else { conclusion := .rejected e }
    | .unlogged e => { conclusion := .unlogged e }
    | .uncertified o => failed o []
    | .ready o plan settings =>
      match s.backing settings with
      | (.error why, entries) => failed o (entries ++ [.log (.setupFailed why)])
      | (.ok backing, entries) =>
        s.follow o { plan with ownsProvider := s.ownsEngine } backing
          (o.notices.map Entry.log ++ entries)
where
  failed (o : Opened) (entries : List Entry) : Performance :=
    { conclusion := .ran (.exit 1),
      entries := o.written.map Entry.written ++
        (o.notices.map Entry.log ++ entries).flatMap (s.written o.routing toString) }

end Scene
end ServiceDiscovery.Simulation
