import ServiceDiscovery.Multicast.Engine
import ServiceDiscovery.Number.Nearest
import ServiceDiscovery.Session.Loop
import ServiceDiscovery.Simulation.Entry
import ServiceDiscovery.Simulation.Scripted

/-!
The world around simulated sessions: the provider, the network behind the multicast engine, the
waiting and the clock, and the record of all that was observed.
-/
namespace ServiceDiscovery.Simulation
open ServiceDiscovery.Multicast

structure Neighbours where
  host : Host := ⟨"host.example", .error ""⟩
  infos : List (String × Lookup) := []
  taken : List String := []
  failing : List String := []
  browserFault : Option Fault := none
  closeFault : Option SystemError := none

namespace Neighbours

def room : Nat := 278

def afterLast (mark : List Char) : List Char → Option (List Char)
  | [] => none
  | c :: cs =>
    match afterLast mark cs with
    | some rest => some rest
    | none => if mark.isPrefixOf (c :: cs) then some ((c :: cs).drop mark.length) else none

def typeProper (type : String) : List Char :=
  (afterLast "._sub.".toList type.toList).getD type.toList

def infoFault (info : ServiceInfo) : Option Failure :=
  if info.addresses.contains "bad" then some (.invalid "bad address")
  else if info.name.toList.head? == some '.' || !(typeProper info.type).isSuffixOf
    info.name.toList then
    some (.badName info.name)
  else if 65535 < info.port then some (.mistyped "port too big")
  else none

def around (n : Neighbours) : Surroundings :=
  ⟨n.host, n.browserFault.map Failure.ofFault, infoFault⟩

def network (n : Neighbours) : Network where
  lookUp name := (n.infos.lookup name).getD .missing
  verdict info :=
    if n.taken.contains info.name then .nameTaken
    else if n.failing.contains info.name then .failed "register failed"
    else .accepted
  room := room

end Neighbours

inductive Backing
  | scripted (p : Scripted)
  | engine (e : Engine)

/-- A pump under way: its connection failed, or it takes the replies from the handle one by one, or
it has taken them as a batch. -/
inductive Pump
  | broken (r : Refusal)
  | queue
  | batch (rest : List Reply)

structure World where
  backing : Backing
  neighbours : Neighbours := {}
  /-- Milliseconds since the start. -/
  clock : Int := 0
  /-- The next failures of waiting, each with the number of the error if it has one. -/
  waitFaults : List (Option Int) := []
  selectorFault : Option Fault := none
  owners : List Nat := []
  /-- Handles of the engine in the order in which they were first watched. -/
  labelled : List Handle := []
  /-- What was observed, the latest first. -/
  seen : List Entry := []

namespace World

def note (w : World) (e : Entry) : World := { w with seen := e :: w.seen }

def noteAll (w : World) (es : List Entry) : World := { w with seen := es.reverse ++ w.seen }

def collect (w : World) : List Entry × World := (w.seen.reverse, { w with seen := [] })

def handleLabel (w : World) (h : Handle) : String :=
  match w.backing with
  | .scripted _ => s!"h{h + 1}"
  | .engine _ => s!"q{w.labelled.idxOf h + 1}"

def handle? (w : World) (label : String) : Option Handle :=
  let known := match w.backing with
    | .scripted p => List.range p.handles.length
    | .engine _ => w.labelled
  known.find? fun h => w.handleLabel h == label

def labelWatched (w : World) (m : Multiplexer) : World :=
  { w with
    labelled :=
      m.watched.foldl (fun ls p => if ls.contains p.2 then ls else ls ++ [p.2]) w.labelled }

def descriptorText (w : World) (d : Int) : String :=
  match w.backing with
  | .scripted _ => toString d
  | .engine _ => "?"

def owned (w : World) (owner : Nat) : StartAnswer → World
  | .started _ _ => { w with owners := w.owners ++ [owner] }
  | _ => w

def answer (w : World) (owner : Nat) (r : StartRequest) : StartAnswer × World × List Entry :=
  match w.backing with
  | .scripted p =>
    let (a, p) := p.start r
    let w := w.owned owner a
    let entry := match a with
      | .refused f => Entry.rejected r.call f.code
      | .started h _ => .started r.call s!"h{h + 1}"
      | .raised _ => .started r.call ""
    (a, { w with backing := .scripted p }, [entry])
  | .engine e =>
    let (a, e, effects) := e.start w.neighbours.around r
    let neighbours := match r.call, a with
      | .browse .., .started .. => w.neighbours
      | .browse .., _ =>
        if effects.isEmpty then w.neighbours else { w.neighbours with browserFault := none }
      | _, _ => w.neighbours
    (a, { w.owned owner a with backing := .engine e, neighbours }, effects.map Entry.ofEffect)

def closeFaults (w : World) : CloseFaults where
  handle h := match w.backing with
    | .scripted p => p.closeFault h
    | .engine _ => none
  selector := w.selectorFault
  provider := match w.backing with
    | .scripted _ => none
    | .engine _ => w.neighbours.closeFault.map Fault.system

def release (w : World) (h : Handle) : World :=
  match w.backing with
  | .scripted p =>
    let (wasOpen, released) := p.release h
    let w := { w with backing := .scripted released }
    if wasOpen then w.note (.released (w.handleLabel h)) else w
  | .engine e =>
    let (e, effects) := e.release h
    { w with backing := .engine e }.noteAll (effects.map Entry.ofEffect)

def closeProvider (w : World) : World :=
  match w.backing with
  | .scripted _ => w.note .providerClosed
  | .engine _ => w.note (.network .close)

def beginPump (w : World) (h : Handle) : Pump × World :=
  match w.backing with
  | .scripted p =>
    match (p.handle? h).bind (·.broken) with
    | some r => (.broken r, w)
    | none =>
      (.queue, { w with backing := .scripted (p.modify h fun s => { s with posted := false }) })
  | .engine e =>
    match e.take h with
    | (.error r, e) => (.broken r, { w with backing := .engine e })
    | (.ok batch, e) => (.batch batch, { w with backing := .engine e })

def continuePump (w : World) (h : Handle) : Pump → Except PumpEnd (Reply × Pump) × World
  | .broken r => (.error (.refused r), w)
  | .queue =>
    match w.backing with
    | .scripted p =>
      match p.nextReply h with
      | some (r, p) => (.ok (r, .queue), { w with backing := .scripted p })
      | none => (.error .delivered, w)
    | .engine _ => (.error .delivered, w)
  | .batch rest =>
    match w.backing with
    | .scripted _ => (.error .delivered, w)
    | .engine e =>
      match e.nextReply h rest with
      | some (r, rest) => (.ok (r, .batch rest), w)
      | none => (.error .delivered, w)

def replyTo? (w : World) (h : Handle) : Option ReplyTo :=
  match w.backing with
  | .scripted p => (p.handle? h).map (·.replyTo)
  | .engine e => (e.endpoint? h).map (·.replyTo)

def owner (w : World) (h : Handle) : Nat := w.owners[h]?.getD 0

def isReady (w : World) (h : Handle) : Bool :=
  match w.backing with
  | .scripted p => p.isReady h
  | .engine e => e.isReady h

def reported (w : World) (m : Multiplexer) : List Int :=
  (m.selector.registered.filter fun p => w.isReady p.2).map (·.1)

def blocked : SystemError := ⟨some 35, "would block forever"⟩

def seconds (w : World) : Rat := Number.nearest ((w.clock : Rat) / 1000)

def waitFault? (w : World) : Option Fault × World :=
  match w.waitFaults with
  | [] => (none, w)
  | some code :: rest => (some (.system ⟨some code, "wait failed"⟩), { w with waitFaults := rest })
  | none :: rest => (some (.system ⟨none, ""⟩), { w with waitFaults := rest })

/-- The end of a wait on a multiplexer, as the clock shows it; a time of zero has no end. -/
def elapse (w : World) (m : Multiplexer) (timeoutMs : Int) : Option Fault × World :=
  if !(m.ready (w.reported m)).isEmpty then (none, { w with clock := w.clock + 1 })
  else if timeoutMs = 0 then (some (.system blocked), w)
  else (none, { w with clock := w.clock + max timeoutMs 0 })

def refuse (w : World) (m : Multiplexer) (timeoutMs : Int) : Option (Option Fault) × World :=
  if m.closed || timeLimit ≤ timeoutMs.natAbs then (some none, w)
  else match w.waitFault? with
    | (some f, w) => (some (some f), w)
    | (none, w) => (none, w)

def wait (w : World) (m : Multiplexer) (timeoutMs : Int) : Option Fault × World :=
  match w.refuse m timeoutMs with
  | (some fault, w) => (fault, w)
  | (none, w) => w.elapse m timeoutMs

/-- Takes note of what a session does. A pump that begins is handed back; client code that is told
something, and the end of a call, are left to the caller. -/
def absorb (starts : List Entry) : World → List Output → Option Pump × World
  | w, [] => (none, w)
  | w, o :: rest =>
    match o with
    | .notice n => absorb starts (w.note (.log n)) rest
    | .start _ _ => absorb starts (w.noteAll starts) rest
    | .release h => absorb starts (w.release h) rest
    | .closeProvider => absorb starts w.closeProvider rest
    | .pump h =>
      let (p, w) := w.beginPump h
      let (later, w) := absorb starts w rest
      (later.or (some p), w)
    | .invoke _ => absorb starts w rest
    | .returned _ => absorb starts w rest

/-- The pumps under way after a step, innermost first: one for each that the stack of frames
shows. -/
def pumpsAfter (before : List Pump) (begun : Option Pump) (stack : List Frame) : List Pump :=
  let under := stack.countP fun f => match f with
    | .pumping .. => true
    | _ => false
  let kept := under - begun.toList.length
  begun.toList ++ before.drop (before.length - kept)

end World
end ServiceDiscovery.Simulation
