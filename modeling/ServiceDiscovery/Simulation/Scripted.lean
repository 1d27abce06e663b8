import ServiceDiscovery.Session.Basic

/-!
A provider that follows a script: its handles deliver the replies that were posted to them, and it
rejects the requests that it was told to reject.
-/
namespace ServiceDiscovery.Simulation

structure ScriptedHandle where
  replyTo : ReplyTo
  descriptor : Int
  queue : List Reply := []
  /-- Something was posted since the last pump. -/
  posted : Bool := false
  broken : Option Refusal := none
  closed : Bool := false
  closeFault : Option Fault := none

structure Scripted where
  handles : List ScriptedHandle := []
  /-- The descriptor of the next handle, if it is not its number. -/
  nextDescriptor : Option Int := none
  /-- The next decisions on each operation: an error code, or nothing to let it pass. -/
  decisions : List (Operation × Option Int) := []

namespace Scripted

def handle? (p : Scripted) (h : Handle) : Option ScriptedHandle := p.handles[h]?

def modify (p : Scripted) (h : Handle) (f : ScriptedHandle → ScriptedHandle) : Scripted :=
  { p with handles := p.handles.modify h f }

def operationOf : Call → Operation
  | .browse .. => .browse
  | .resolve .. => .resolve
  | .register .. => .register

def decide (op : Operation) : List (Operation × Option Int) →
    Option Int × List (Operation × Option Int)
  | [] => (none, [])
  | (o, code) :: rest =>
    if o = op then (code, rest)
    else
      let (found, left) := decide op rest
      (found, (o, code) :: left)

def start (p : Scripted) (r : StartRequest) : StartAnswer × Scripted :=
  let (code, decisions) := decide (operationOf r.call) p.decisions
  let p := { p with decisions }
  match code with
  | some code => (.refused (.make code ""), p)
  | none =>
    let descriptor := p.nextDescriptor.getD (p.handles.length + 1 : Nat)
    (.started p.handles.length descriptor,
      { p with nextDescriptor := none,
               handles := p.handles ++ [{ replyTo := r.replyTo, descriptor }] })

def post (p : Scripted) (h : Handle) (r : Reply) (count : Nat) : Scripted :=
  p.modify h fun s =>
    if s.closed then s
    else { s with queue := s.queue ++ List.replicate count r, posted := s.posted || 0 < count }

def isReady (p : Scripted) (h : Handle) : Bool :=
  (p.handle? h).any fun s => s.posted || s.broken.isSome

def release (p : Scripted) (h : Handle) : Bool × Scripted :=
  ((p.handle? h).any (!·.closed), p.modify h fun s => { s with queue := [], closed := true })

def closeFault (p : Scripted) (h : Handle) : Option Fault :=
  (p.handle? h).bind fun s => if s.closed then none else s.closeFault

def nextReply (p : Scripted) (h : Handle) : Option (Reply × Scripted) :=
  match p.handle? h with
  | some s =>
    match s.queue with
    | [] => none
    | r :: rest =>
      if s.closed then none
      else some (if rest.isEmpty then r else r.withMoreComing,
        p.modify h fun s => { s with queue := rest })
  | none => none

end Scripted
end ServiceDiscovery.Simulation
