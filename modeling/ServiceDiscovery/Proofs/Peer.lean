import ServiceDiscovery.Proofs.Endpoints
import ServiceDiscovery.Proofs.History

/-!
A session together with the engine that it works with: requests are answered by the engine, and a
run hands the replies that the engine has queued to the session, whose clients only listen.
-/
namespace ServiceDiscovery

namespace Multiplexer
variable {m : Multiplexer}

theorem InStep.ready_add (hm : m.InStep) (hopen : m.closed = false) (h : Handle) (d : Int) :
    (m.add h d).2.ready [d] = [(d, h)] := by
  obtain ⟨-, hin, hclosed, -⟩ := hm.add h d
  have hnodup : ((m.add h d).2.selector.registered.map (·.1)).Nodup :=
    (hin.perm.map _).nodup_iff.mpr hin.nodup
  have hlookup :=
    (Keyed.lookup_eq_some_iff hnodup).mpr (hin.perm.mem_iff.mpr (hm.mem_watched_add h d))
  simp [ready, Selector.ready, hclosed, hopen, hlookup]

end Multiplexer

namespace Loop
variable {l : Loop} {d timeoutMs : Int} {h : Handle}

theorem opened_step {faults : CloseFaults} {m : Move} {o : Opening} (hs : l.session.Sound)
    (ho : o ∈ openings (l.step faults m).2) :
    ∃ r, m = .request r (.started o.handle o.descriptor) := by
  obtain hkeeps | ⟨t, he, ht⟩ := step_cases hs faults m
  · rw [hkeeps.openings] at ho
    cases ho
  · exact he.opened (ht.openings ▸ ho)

theorem run_reported (hlimit : timeoutMs.natAbs < timeLimit) (hstack : l.stack = [])
    (hopen : l.session.closed = false) (hready : l.session.mux.ready [d] = [(d, h)])
    (hwatching : l.session.mux.isWatching d h = true) (answer : StartAnswer) :
    run [({}, .request (.run timeoutMs) answer), ({}, .waited [d] none)] l =
      (⟨l.session, l.records, [.pumping d h, .passing timeoutMs []]⟩, [.pump h]) := by
  have hmux : l.session.mux.closed = false := by
    by_contra hclosed
    rw [Bool.not_eq_false] at hclosed
    simp [Multiplexer.ready, hclosed] at hready
  have hwait : l.session.mux.wait timeoutMs [d] none = .ok [(d, h)] := by
    simp only [Multiplexer.wait, hmux, if_neg (Nat.not_le.mpr hlimit), hready,
      Bool.false_eq_true, if_false]
  simp [run, step, isIdle, hstack, request, hopen, waited, hwait, advance, hwatching]

theorem step_pumped_last (htimeout : timeoutMs ≠ 0) (hopen : l.session.closed = false)
    (hstack : l.stack = [.pumping d h, .passing timeoutMs []]) :
    l.step {} (.pumped .delivered) = (⟨l.session, l.records, []⟩, [.returned (.ok (some 0))]) := by
  simp [step, hstack, pumped, advance, hopen, htimeout]

theorem run_listening {rest : List (Int × Handle)} {below : List Frame} {x : Option Int}
    (hstack : l.stack = .pumping d h :: .passing timeoutMs rest :: below) (address : ReplyTo)
    (r : Reply) (hok : (l.session.onReply {} l.records address r).next.outcome = .ok x) :
    run [({}, .reply address r), ({}, .finish false)] l =
      (⟨(l.session.onReply {} l.records address r).session,
        (l.session.onReply {} l.records address r).records, l.stack⟩,
        (l.session.onReply {} l.records address r).outputs ++
          (l.session.onReply {} l.records address r).next.invocation?.toList.map .invoke) := by
  generalize hturn : l.session.onReply {} l.records address r = t at hok
  cases hnext : t.next with
  | done o =>
    rw [hnext] at hok
    obtain rfl : o = .ok x := hok
    simp [run, step, hstack, hturn, settle, hnext, comeBack, Next.invocation?]
  | notify i o =>
    rw [hnext] at hok
    obtain rfl : o = .ok x := hok
    simp [run, step, hstack, hturn, settle, hnext, comeBack, Next.invocation?]

end Loop

open Multicast

structure Peer where
  loop : Loop
  engine : Engine

structure Progress where
  peer : Peer
  outputs : List Output := []
  effects : List Effect := []

namespace Peer

def unasked : StartAnswer := .refused ⟨ErrorCode.noError, ""⟩

def ask (around : Surroundings) (p : Peer) (r : Request) : StartAnswer × Engine × List Effect :=
  match p.loop.startRequest? r with
  | some asked => p.engine.start around asked
  | none => (unasked, p.engine, [])

def call (around : Surroundings) (p : Peer) (r : Request) : Progress :=
  let (answer, engine, effects) := p.ask around r
  let (loop, outputs) := p.loop.step {} (.request r answer)
  ⟨⟨loop, engine⟩, outputs, effects⟩

def work (net : Network) (p : Peer) (h : Handle) : Progress :=
  match p.engine.endpoint? h with
  | some endpoint =>
    let (_, endpoint, effects) := endpoint.finish net
    ⟨{ p with engine := p.engine.modify h fun _ => endpoint }, [], effects⟩
  | none => ⟨p, [], []⟩

def hear (room : Nat) (p : Peer) (h : Handle) (names : List String) : Peer :=
  { p with engine := p.engine.hear room h names }

def deliver (h : Handle) (address : ReplyTo) : List Reply → Peer → Peer × List Output
  | [], p => (p, [])
  | r :: rest, p =>
    match p.engine.nextReply h (r :: rest) with
    | none => (p, [])
    | some (r, _) =>
      let (loop, first) := Loop.run [({}, .reply address r), ({}, .finish false)] p.loop
      let engine := (releases first).foldl (fun e h => (e.release h).1) p.engine
      let (p, later) := deliver h address rest ⟨loop, engine⟩
      (p, first ++ later)

def pump (p : Peer) (h : Handle) (endpoint : Endpoint) : Peer × List Output :=
  match p.engine.take h with
  | (.ok batch, engine) =>
    let (p, delivered) := deliver h endpoint.replyTo batch { p with engine }
    let (loop, last) := p.loop.step {} (.pumped .delivered)
    ({ p with loop }, delivered ++ last)
  | (.error r, engine) =>
    let (loop, last) := p.loop.step {} (.pumped (.refused r))
    (⟨loop, engine⟩, last)

def run (timeoutMs d : Int) (p : Peer) : Peer × List Output :=
  let (loop, first) :=
    Loop.run [({}, .request (.run timeoutMs) unasked), ({}, .waited [d] none)] p.loop
  match loop.stack with
  | .pumping _ h :: _ =>
    match p.engine.endpoint? h with
    | some endpoint =>
      let (p, later) := { p with loop }.pump h endpoint
      (p, first ++ later)
    | none => ({ p with loop }, first)
  | _ => ({ p with loop }, first)

variable {p : Peer} {h : Handle} {d timeoutMs : Int} {endpoint : Endpoint} {t : Turn}
  {x : Option Int}

theorem call_outputs (around : Surroundings) (p : Peer) (r : Request) :
    (p.call around r).outputs = (p.loop.step {} (.request r (p.ask around r).1)).2 := rfl

theorem call_engine (around : Surroundings) (p : Peer) (r : Request) :
    (p.call around r).peer.engine = (p.ask around r).2.1 := rfl

theorem call_eq {around : Surroundings} {r : Request} {asked : StartRequest} {answer : StartAnswer}
    {engine : Engine} {effects : List Effect} {s : Session} {rs : Records} {os : List Output}
    {o : Outcome} (hstack : p.loop.stack = []) (hask : p.loop.startRequest? r = some asked)
    (hstart : p.engine.start around asked = (answer, engine, effects))
    (hturn : p.loop.request {} r answer = p.loop.settle ⟨s, rs, os, .done o⟩) :
    p.call around r = ⟨⟨⟨s, rs, []⟩, engine⟩, os ++ [.returned o], effects⟩ := by
  have hidle : p.loop.isIdle = true := by simp [Loop.isIdle, hstack]
  simp only [call, ask, hask, hstart, Loop.step_request hidle, hturn,
    Loop.settle_done hidle, hstack]

theorem deliver_cons {address : ReplyTo} {r : Reply} {rest : List Reply}
    (hstack : p.loop.stack = [.pumping d h, .passing timeoutMs []])
    (hendpoint : p.engine.endpoint? h = some endpoint) (hopen : endpoint.queue.Open)
    (hturn : p.loop.session.onReply {} p.loop.records address (if rest.isEmpty then
      r else r.withMoreComing) = t)
    (hok : t.next.outcome = .ok x) :
    deliver h address (r :: rest) p =
      let (p', later) := deliver h address rest ⟨⟨t.session, t.records, p.loop.stack⟩,
        (releases t.outputs).foldl (fun e h => (e.release h).1) p.engine⟩
      (p', t.outputs ++ t.next.invocation?.toList.map .invoke ++ later) := by
  subst hturn
  have hquiet (i : Option Invocation) : releases (i.toList.map .invoke) = [] := by cases i <;> rfl
  simp only [deliver, Engine.nextReply_cons hendpoint hopen,
    Loop.run_listening hstack address _ hok, releases_append, hquiet, List.append_nil]

theorem deliver_one {address : ReplyTo} {r : Reply}
    (hstack : p.loop.stack = [.pumping d h, .passing timeoutMs []])
    (hendpoint : p.engine.endpoint? h = some endpoint) (hopen : endpoint.queue.Open)
    (hturn : p.loop.session.onReply {} p.loop.records address r = t)
    (hok : t.next.outcome = .ok x) :
    deliver h address [r] p = (⟨⟨t.session, t.records, p.loop.stack⟩,
      (releases t.outputs).foldl (fun e h => (e.release h).1) p.engine⟩,
      t.outputs ++ t.next.invocation?.toList.map .invoke) := by
  have hturn : p.loop.session.onReply {} p.loop.records address
      (if ([] : List Reply).isEmpty then r else r.withMoreComing) = t := hturn
  have hfirst := deliver_cons hstack hendpoint hopen hturn hok
  simpa [deliver] using hfirst

/-- Client code has an open session, which watches a handle whose endpoint is open. -/
structure Awaits (p : Peer) (d : Int) (h : Handle) (endpoint : Endpoint) : Prop where
  sound : p.loop.session.Sound
  opened : p.loop.session.closed = false
  stack : p.loop.stack = []
  ready : p.loop.session.mux.ready [d] = [(d, h)]
  watching : p.loop.session.mux.isWatching d h = true
  endpoint? : p.engine.endpoint? h = some endpoint
  queue : endpoint.queue.Open

/-- A run with a time that can be waited for delivers what the endpoint has queued. -/
theorem Awaits.run_eq {address : ReplyTo} (hp : p.Awaits d h endpoint)
    (htimeout : timeoutMs ≠ 0 ∧ timeoutMs.natAbs < timeLimit)
    (hreplyTo : endpoint.replyTo = address) :
    ∃ engine queue, engine.endpoint? h = some { endpoint with queue } ∧ queue.Open ∧
      ∀ p' os,
        deliver h address endpoint.queue.events
          ⟨⟨p.loop.session, p.loop.records, [.pumping d h, .passing timeoutMs []]⟩, engine⟩ =
            (p', os) →
        p'.loop.stack = [.pumping d h, .passing timeoutMs []] → p'.loop.session.closed = false →
        p.run timeoutMs d = (⟨⟨p'.loop.session, p'.loop.records, []⟩, p'.engine⟩,
          .pump h :: os ++ [.returned (.ok (some 0))]) := by
  obtain ⟨engine, queue, htake, hafter, hqueue⟩ := Engine.take_eq hp.endpoint? hp.queue
  refine ⟨engine, queue, hafter, hqueue, fun p' os hdeliver hstack hopened => ?_⟩
  have hlast := Loop.step_pumped_last htimeout.1 hopened hstack
  simp only [run, Loop.run_reported htimeout.2 hp.stack hp.opened hp.ready hp.watching,
    hp.endpoint?, pump, htake, hreplyTo, hdeliver, hlast]
  simp

end Peer
end ServiceDiscovery
