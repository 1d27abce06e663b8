import ServiceDiscovery.Command.Options
import ServiceDiscovery.Number.Nearest
import ServiceDiscovery.Session.Loop
import ServiceDiscovery.Settings.Schema

/-!
A run of the command: one session that announces or browses in bounded cycles until a signal, a
deadline or a failure ends it. What the surroundings do comes in as inputs; everything that the run
does goes out as events.
-/
namespace ServiceDiscovery.Command
open ServiceDiscovery.Settings

structure Plan where
  action : Action
  uuid : String
  service : ServiceSettings := {}
  certificate : Text.Octets := []
  timeoutMs : Int := 500
  exitAfterMs : Int := 0
  ownsProvider : Bool := false

inductive Ending
  | exit (code : Int)
  | escaped (f : Fault)
  deriving DecidableEq, Repr

inductive Stage
  | opening
  | asked
  | resting (deadline : Option Rat)
  | cycling (deadline : Option Rat)
  | leaving (e : Ending)
  | ended (e : Ending)
  deriving DecidableEq, Repr

inductive Duty
  | resolve (r : RecordId)
  | finish (raised : Bool)
  deriving DecidableEq, Repr

structure Run where
  plan : Plan
  loop : Loop
  stage : Stage := .opening
  /-- One duty for each notification that the run is told of, the innermost first. -/
  duties : List Duty := []
  stopped : Bool := false
  failed : Bool := false
  /-- The seconds that the clock showed when the run was last in control. -/
  now : Rat := 0

inductive Input
  /-- The run goes on; the answer is used if the provider is asked. -/
  | proceed (now : Rat) (answer : StartAnswer)
  | signal (name : String)
  /-- A wait or a pump goes on, or the provider reports something. -/
  | world (m : Move)

inductive Event
  | session (o : Output)
  | print (line : String)
  | notice (n : Notice)
  | catchSignals
  | restoreSignals
  | closeProvider
  | ended (e : Ending)

def describe (kind : String) (r : Record) : String :=
  Text.trimEnd s!"{kind} {r.uuid} {r.regtype} {r.domain}"

namespace Run

def start (plan : Plan) : Run where
  plan
  loop := { session := { uuid := plan.uuid, own := 0 }, records := ⟨[.named plan.uuid]⟩ }

def client : Client := ⟨0, true, true, .null⟩

def constraints (p : Plan) : Constraints :=
  ⟨p.service.transport.code, p.service.interfaceIndex, p.service.subtype, p.service.domain⟩

def advertisement (p : Plan) : Advertisement :=
  { constraints p with
    port := p.service.port, namePrefix := p.service.namePrefix, certificate := p.certificate }

def opening (p : Plan) : Request :=
  match p.action with
  | .announce => .announce (advertisement p) client
  | .browse _ => .browse (constraints p) client

def cycleMs (p : Plan) : Int := max 1 p.timeoutMs

def leave (r : Run) (e : Ending) : Run := { r with stage := .leaving e }

/-- The time at which a run is to be over that first rests at `now`, added up in doubles. -/
def deadline (p : Plan) (now : Rat) : Rat :=
  Number.nearest (now + Number.nearest (Number.nearest p.exitAfterMs / 1000))

/-- The first rest, which sets the deadline if the run has one. -/
def rest (r : Run) : Run :=
  if r.plan.exitAfterMs ≤ 0 then { r with stage := .resting none }
  else if timeLimit ≤ r.plan.exitAfterMs.toNat then r.leave (.escaped .waitTooLong)
  else { r with stage := .resting (some (deadline r.plan r.now)) }

def exitCode (r : Run) : Int := if r.failed then 1 else 0

def lineOf (r : Run) : Notification → String
  | .added _ id => describe "ADDED" (r.loop.records.get id).shown
  | .removed _ id => describe "REMOVED" (r.loop.records.get id).shown
  | .resolved _ id =>
    let peer := (r.loop.records.get id).shown
    describe "RESOLVED" peer ++ s!" {peer.hostname}:{peer.port} {peer.namePrefix}"
  | .registered =>
    let own := (r.loop.session.ownRecord r.loop.records).shown
    describe "REGISTERED" { own with uuid := r.plan.uuid }
  | .failed _ id code message _ => s!"ERROR {id} {code} {message}"

def dutyOf (p : Plan) : Notification → Duty
  | .added _ id => if p.action = .browse true then .resolve id else .finish false
  | _ => .finish false

def isFailure (p : Plan) : Notification → Bool
  | .failed _ id .. => id = -1 && p.action = .announce
  | _ => false

def told (r : Run) (what : Notification) : Run × List Event :=
  let failed := isFailure r.plan what
  ({ r with duties := dutyOf r.plan what :: r.duties, failed := r.failed || failed,
            stopped := r.stopped || failed },
    [.print (r.lineOf what)])

def returned (r : Run) (o : Outcome) : Run × List Event :=
  match r.duties, r.stage, o with
  | _ :: outer, _, .ok _ => ({ r with duties := .finish false :: outer }, [])
  | _ :: outer, _, .error _ => ({ r with duties := .finish true :: outer }, [])
  | [], .asked, .error f => (r.leave (.escaped f), [])
  | [], .asked, .ok id =>
    if r.failed || id.any (· < 0) then (r.leave (.exit 1), []) else (r.rest, [])
  | [], .cycling _, .error f => (r.leave (.escaped f), [])
  | [], .cycling deadline, .ok code =>
    let code := code.getD 0
    if code = 0 then ({ r with stage := .resting deadline }, [])
    else (r.leave (.exit code), [.notice (.loopStopped code)])
  | [], _, _ => (r, [])

def absorb : Run → List Output → Run × List Event
  | r, [] => (r, [])
  | r, o :: rest =>
    let (r, here) := match o with
      | .invoke i => r.told i.what
      | .returned outcome => r.returned outcome
      | _ => (r, [])
    let (r, later) := r.absorb rest
    (r, .session o :: here ++ later)

def move (faults : CloseFaults) (r : Run) (m : Move) : Run × List Event :=
  let (loop, outputs) := r.loop.step faults m
  { r with loop }.absorb outputs

/-- Closes the provider that the run made. A fault that is not one of the system or the provider
stays. -/
def closeProvider (faults : CloseFaults) (r : Run) : List Event × Option Fault :=
  if r.plan.ownsProvider then
    match faults.provider with
    | none => ([.closeProvider], none)
    | some (.system e) => ([.closeProvider, .notice (.closingFailed e.message)], none)
    | some (.refused e) => ([.closeProvider, .notice (.closingFailed e.text)], none)
    | some f => ([.closeProvider], some f)
  else ([], none)

/-- Closes the session, then the provider if it is the run's own, and gives back the signals. -/
def close (faults : CloseFaults) (r : Run) (e : Ending) : Run × List Event :=
  let (r, closing) := r.move faults (.request .close (.refused ⟨ErrorCode.noError, ""⟩))
  match r.closeProvider faults with
  | (events, none) =>
    ({ r with stage := .ended e }, closing ++ events ++ [.restoreSignals, .ended e])
  | (events, some f) =>
    ({ r with stage := .ended (.escaped f) }, closing ++ events ++ [.ended (.escaped f)])

def isOver (r : Run) (deadline : Option Rat) : Bool := r.stopped || deadline.any (· ≤ r.now)

def request? (r : Run) : Option Request :=
  match r.duties, r.stage with
  | .resolve id :: _, _ => some (.resolve id client)
  | .finish _ :: _, _ => none
  | [], .opening => some (opening r.plan)
  | [], .resting deadline => if r.isOver deadline then none else some (.run (cycleMs r.plan))
  | [], _ => none

def proceed (faults : CloseFaults) (r : Run) (answer : StartAnswer) : Run × List Event :=
  match r.duties, r.stage with
  | .resolve id :: outer, _ =>
    { r with duties := .finish false :: outer }.move faults (.request (.resolve id client) answer)
  | .finish raised :: outer, _ => { r with duties := outer }.move faults (.finish raised)
  | [], .opening =>
    let (r, events) := { r with stage := .asked }.move faults (.request (opening r.plan) answer)
    (r, .catchSignals :: events)
  | [], .resting deadline =>
    if r.isOver deadline then (r.leave (.exit r.exitCode), [])
    else { r with stage := .cycling deadline }.move faults (.request (.run (cycleMs r.plan)) answer)
  | [], .leaving e => r.close faults e
  | [], _ => (r, [])

def isWaiting (r : Run) : Bool :=
  match r.duties, r.stage with
  | [], .cycling _ => true
  | _, _ => false

def catchesSignals (r : Run) : Bool :=
  match r.stage with
  | .opening => false
  | .ended _ => false
  | _ => true

def step (faults : CloseFaults) (r : Run) : Input → Run × List Event
  | .proceed now answer => { r with now }.proceed faults answer
  | .signal name =>
    if r.catchesSignals then ({ r with stopped := true }, [.notice (.stopping name)]) else (r, [])
  | .world m => if r.isWaiting then r.move faults m else (r, [])

def steps : List (CloseFaults × Input) → Run → Run × List Event
  | [], r => (r, [])
  | (faults, i) :: rest, r =>
    let (r, first) := r.step faults i
    let (r, later) := steps rest r
    (r, first ++ later)

end Run
end ServiceDiscovery.Command
