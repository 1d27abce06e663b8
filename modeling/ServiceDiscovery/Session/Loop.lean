import ServiceDiscovery.Session.Close
import ServiceDiscovery.Session.Reply
import ServiceDiscovery.Session.Start

/-!
The event loop around a session. Control passes between client code, the loop and the provider; the
stack of frames says who has it, and a move says what the one in control does next.
-/
namespace ServiceDiscovery

inductive Request
  | announce (a : Advertisement) (c : Client)
  | browse (k : Constraints) (c : Client)
  | resolve (target : RecordId) (c : Client)
  | cancel (id : Int)
  | run (timeoutMs : Int)
  | close

/-- A call that has not come back: a run that waits, the rest of the pass over what was ready, a
pump of one handle, a reply outside of any pump, or client code that has been told something. -/
inductive Frame
  | waiting (timeoutMs : Int)
  | passing (timeoutMs : Int) (rest : List (Int × Handle))
  | pumping (descriptor : Int) (h : Handle)
  | calling
  | notifying (i : Invocation) (o : Outcome)

inductive PumpEnd
  | delivered
  | refused (r : Refusal)
  | raised (f : Fault)

inductive Move
  /-- Client code calls the session; the answer is used if the provider is asked. -/
  | request (r : Request) (answer : StartAnswer)
  | finish (raised : Bool)
  /-- A wait ends: the selector reports some descriptors as ready, or it fails. -/
  | waited (reported : List Int) (fault : Option Fault)
  /-- The provider reports something, in a pump or at any other time. -/
  | reply (address : ReplyTo) (r : Reply)
  | pumped (e : PumpEnd)

structure Loop where
  session : Session
  records : Records := {}
  stack : List Frame := []

namespace Loop

def isIdle (l : Loop) : Bool :=
  match l.stack with
  | [] => true
  | .notifying .. :: _ => true
  | _ => false

def startRequest? (l : Loop) : Request → Option StartRequest
  | .announce a _ =>
    if l.session.closed then none
    else match l.session.packed l.records a with
      | .ok txt => some (l.session.registerRequest a txt)
      | .error _ => none
  | .browse k _ => if l.session.closed then none else some (l.session.browseRequest k)
  | .resolve target _ =>
    if l.session.closed then none
    else (l.session.tracker? l.records target).map fun _ =>
      l.session.resolveRequest l.records target
  | _ => none

/-- Goes through the rest of a pass to the first entry that is still watched, or ends it. -/
def advance (l : Loop) (timeoutMs : Int) (rest : List (Int × Handle)) (below : List Frame) :
    Loop × List Output :=
  match if l.session.closed then [] else rest.dropWhile fun e =>
    !l.session.mux.isWatching e.1 e.2 with
  | (descriptor, h) :: later =>
    ({ l with stack := .pumping descriptor h :: .passing timeoutMs later :: below }, [.pump h])
  | [] =>
    if timeoutMs ≠ 0 ∨ l.session.closed then ({ l with stack := below }, [.returned (.ok (some 0))])
    else ({ l with stack := .waiting timeoutMs :: below }, [])

def leave (l : Loop) (below : List Frame) (o : Outcome) : Loop × List Output :=
  ({ l with stack := below }, [.returned o])

/-- The end of a run whose pump raises something. An error of the provider ends it with the code of
the error, and anything else comes out of it. -/
def fail (l : Loop) (descriptor : Int) (below : List Frame) : Fault → Loop × List Output
  | .refused r =>
    ({ l with stack := below },
      [.notice (.pumpFailed l.session.uuid descriptor r), .returned (.ok (some r.code))])
  | f => l.leave below (.error f)

/-- A call comes back to whoever made it: to the provider inside a pump, else to client code. A
fault in a pump goes through the provider to the run. -/
def comeBack (l : Loop) (o : Outcome) : Loop × List Output :=
  match l.stack with
  | .pumping descriptor _ :: .passing .. :: below =>
    match o with
    | .error f => l.fail descriptor below f
    | .ok _ => (l, [])
  | .calling :: below => l.leave below o
  | _ => (l, [.returned o])

def settle (l : Loop) (t : Turn) : Loop × List Output :=
  let l := { l with session := t.session, records := t.records }
  match t.next with
  | .notify i o => ({ l with stack := .notifying i o :: l.stack }, t.outputs ++ [.invoke i])
  | .done o =>
    let (l, outputs) := l.comeBack o
    (l, t.outputs ++ outputs)

def request (faults : CloseFaults) (l : Loop) (r : Request) (answer : StartAnswer) :
    Loop × List Output :=
  match r with
  | .announce a c => l.settle (l.session.announce l.records a c answer)
  | .browse k c => l.settle (l.session.browse l.records k c answer)
  | .resolve target c => l.settle (l.session.resolve l.records target c answer)
  | .cancel id => l.settle (l.session.cancel faults l.records id)
  | .close => l.settle (l.session.close faults l.records)
  | .run timeoutMs =>
    if l.session.closed then (l, [.returned (.error (.closed l.session.uuid))])
    else ({ l with stack := .waiting timeoutMs :: l.stack }, [])

/-- The end of a wait. A failure reported by the system ends the run with its number. -/
def waited (l : Loop) (timeoutMs : Int) (below : List Frame) (reported : List Int)
    (fault : Option Fault) : Loop × List Output :=
  match l.session.mux.wait timeoutMs reported fault with
  | .ok ready => l.advance timeoutMs ready below
  | .error (.system e) =>
    let code := if e.number.getD 0 = 0 then ErrorCode.unknown else e.number.getD 0
    ({ l with stack := below }, [.notice (.waitFailed l.session.uuid e),
      .returned (.ok (some code))])
  | .error f => l.leave below (.error f)

def pumped (l : Loop) (descriptor timeoutMs : Int) (rest : List (Int × Handle))
    (below : List Frame) :
    PumpEnd → Loop × List Output
  | .delivered => l.advance timeoutMs rest below
  | .refused r => l.fail descriptor below (.refused r)
  | .raised f => l.fail descriptor below f

/-- One move. A move that the one in control cannot make changes nothing. -/
def step (faults : CloseFaults) (l : Loop) (m : Move) : Loop × List Output :=
  match m, l.stack with
  | .request r answer, _ => if l.isIdle then l.request faults r answer else (l, [])
  | .finish raised, .notifying i o :: below =>
    let logged := if raised then [Output.notice (.callbackRaised i.what.label)] else []
    let (l, outputs) := { l with stack := below }.comeBack o
    (l, logged ++ outputs)
  | .waited reported fault, .waiting timeoutMs :: below => l.waited timeoutMs below reported fault
  | .pumped e, .pumping descriptor _ :: .passing timeoutMs rest :: below =>
    l.pumped descriptor timeoutMs rest below e
  | .reply address r, .pumping .. :: _ => l.settle (l.session.onReply faults l.records address r)
  | .reply address r, _ =>
    if l.isIdle then
      { l with stack := .calling :: l.stack }.settle (l.session.onReply faults l.records address r)
    else (l, [])
  | _, _ => (l, [])

def run : List (CloseFaults × Move) → Loop → Loop × List Output
  | [], l => (l, [])
  | (faults, m) :: rest, l =>
    let (l, first) := l.step faults m
    let (l, later) := run rest l
    (l, first ++ later)

end Loop
end ServiceDiscovery
