import ServiceDiscovery.Multicast.Engine
import ServiceDiscovery.Proofs.ServiceTypes

/-!
What endpoints of the multicast engine queue, hand over and ask of the network as long as they are
open.
-/
namespace ServiceDiscovery.Multicast

structure Queue.Open {α : Type} (q : Queue α) : Prop where
  reader : q.readerOpen = true
  writer : q.writerOpen = true
  closed : q.closed = false

namespace Queue
variable {α : Type} {q : Queue α}

theorem open_empty : ({} : Queue α).Open := ⟨rfl, rfl, rfl⟩

theorem Open.post_eq (hq : q.Open) (room : Nat) (event : α) :
    q.post room event = (none, { q with
      events := q.events ++ [event], unread :=
        if q.unread < room then q.unread + 1 else q.unread }) := by
  simp only [Queue.post, wake, hq.closed, hq.reader, hq.writer, Bool.not_true,
    Bool.false_eq_true, if_false]
  split <;> rfl

theorem Open.post (hq : q.Open) (room : Nat) (event : α) :
    ∃ q', q.post room event = (none, q') ∧ q'.Open ∧ q'.events = q.events ++ [event] :=
  ⟨_, hq.post_eq room event, ⟨hq.reader, hq.writer, hq.closed⟩, rfl⟩

theorem Open.read (hq : q.Open) : q.read = if q.unread = 0 then (.nothing, q)
    else (.bytes (min readSize q.unread), { q with unread := q.unread - readSize }) := by
  simp only [Queue.read, hq.reader, hq.writer, Bool.not_true, Bool.false_eq_true, if_false, if_true]

/-- However many reads it takes, no byte is left. -/
theorem Open.drain (hq : q.Open) : q.drain = (.ok (), { q with unread := 0 }) := by
  fun_induction Queue.drain q with
  | case1 q e r hread | case2 q r hread =>
    rw [hq.read] at hread
    split at hread <;> cases hread
  | case3 q r hread =>
    rw [hq.read] at hread
    split at hread
    · rename_i hnone
      cases hread
      simp [← hnone]
    · cases hread
  | case4 q n r hread hshort =>
    rw [hq.read] at hread
    split at hread
    · cases hread
    · cases hread
      have hall : q.unread - readSize = 0 := by omega
      simp [hall]
  | case5 q n r hread hfull ih =>
    rw [hq.read] at hread
    split at hread
    · cases hread
    · cases hread
      exact ih ⟨hq.reader, hq.writer, hq.closed⟩

theorem Open.take_eq (hq : q.Open) :
    q.take = (.ok q.events, { q with events := [], unread := 0 }) := by
  simp only [Queue.take, hq.drain, hq.closed, Bool.false_eq_true, if_false]

theorem Open.take (hq : q.Open) : ∃ q', q.take = (.ok q.events, q') ∧ q'.Open ∧ q'.events = [] :=
  ⟨_, hq.take_eq, ⟨hq.reader, hq.writer, hq.closed⟩, rfl⟩

end Queue

theorem Failure.answer_ne_started (f : Failure) (translated : Bool) (code : Int) (what : String)
    (h : Handle) (d : Int) : f.answer translated code what ≠ .started h d := by
  unfold answer
  split <;> nofun

namespace Engine
variable {e : Engine} {h : Handle} {p : Endpoint}

theorem endpoint?_modify (f : Endpoint → Endpoint) (hp : e.endpoint? h = some p) :
    (e.modify h f).endpoint? h = some (f p) := by
  have hp : e.endpoints[h]? = some p := hp
  simp [endpoint?, modify, hp]

theorem add_eq (e : Engine) (replyTo : ReplyTo) (purpose : Purpose) (work : Work) :
    ∃ d e' p, e.add replyTo purpose work = (.started e.endpoints.length d, e') ∧
      e'.endpoint? e.endpoints.length = some p ∧ p.replyTo = replyTo ∧ p.purpose = purpose ∧
      p.work = work ∧ p.queue = {} :=
  ⟨_, _, _, rfl, List.getElem?_concat_length, rfl, rfl, rfl, rfl⟩

section
variable {t : Transport} {subtype name : String} {interfaceIndex : Int} {replyTo : ReplyTo}
  {domain : Option String} {around : Surroundings}

theorem start_register {port d : Int} {txt : Text.Octets}
    (hstart : (e.start around ⟨.register interfaceIndex name (RegType.make t.code subtype) domain
      port txt, replyTo⟩).1 = .started h d) :
    ∃ p info, (e.start around
        ⟨.register interfaceIndex name (RegType.make t.code subtype) domain port txt,
          replyTo⟩).2.1.endpoint? h =
          some p ∧
      p.work = .ask ∧ p.purpose = .register info name (serviceType t subtype).reply ∧
      info.name = name ++ "." ++ (serviceType t subtype).base ∧
      info.type = (serviceType t subtype).full ∧
      info.port = port ∧ info.txt = txt := by
  cases hof : ServiceType.of? (some (RegType.make t.code subtype)) domain with
  | error f => simp [start, hof] at hstart
  | ok type =>
    obtain rfl := eq_of_of?_make hof
    let info := e.infoOf around (serviceType t subtype) name port txt
    obtain ⟨d', e', p, hadd, hp, -, hpurpose, hwork, -⟩ :=
      e.add_eq replyTo (.register info name (serviceType t subtype).reply) .ask
    simp only [start, hof, startRegister] at hstart ⊢
    split at hstart
    · exact absurd hstart (Failure.answer_ne_started _ _ _ _ _ _)
    · obtain ⟨rfl, -⟩ := StartAnswer.started.inj hstart
      exact ⟨p, info, (congrArg (·.2.endpoint? e.endpoints.length) hadd).trans hp, hwork,
        hpurpose, rfl, rfl, rfl, rfl⟩

theorem start_browse (e : Engine) (t : Transport) (subtype : String) (interfaceIndex : Int)
    (replyTo : ReplyTo) (hd : isLocalDomain (domain.getD "") = true)
    (hfault : around.browserFault = none) :
    ∃ d e' n p,
      e.start around ⟨.browse interfaceIndex (RegType.make t.code subtype) domain, replyTo⟩ =
        (.started e.endpoints.length d, e', [.notice (.browsing (serviceType t subtype).full),
          .call (.browse n (serviceType t subtype).full)]) ∧
      e'.endpoint? e.endpoints.length = some p ∧ p.replyTo = replyTo ∧
      p.purpose = .browse (serviceType t subtype) interfaceIndex n ∧ p.queue = {} := by
  obtain ⟨d, e', p, hadd, hp, hreplyTo, hpurpose, -, hqueue⟩ :=
    ({ e with browsers := e.browsers + 1 } : Engine).add_eq replyTo
      (.browse (serviceType t subtype) interfaceIndex (e.browsers + 1)) .finished
  refine ⟨d, e', e.browsers + 1, p, ?_, hp, hreplyTo, hpurpose, hqueue⟩
  simp only [start, of?_make t subtype hd, startBrowse, hfault, hadd]

theorem start_resolve (e : Engine) (around : Surroundings) (t : Transport) (subtype : String)
    (interfaceIndex : Int) (replyTo : ReplyTo) (hname : name ≠ "") :
    ∃ d e' p, e.start around
        ⟨.resolve interfaceIndex name (serviceType t subtype).reply localDomain, replyTo⟩ =
        (.started e.endpoints.length d, e', []) ∧
      e'.endpoint? e.endpoints.length = some p ∧ p.replyTo = replyTo ∧
      p.purpose = .resolve (serviceType t subtype).base
        (name ++ "." ++ (serviceType t subtype).base)
        interfaceIndex e.settings.resolveTimeoutMs ∧
      p.work = .ask ∧ p.queue = {} := by
  obtain ⟨type, hof, hbase⟩ := of?_reply t subtype
  obtain ⟨d, e', p, hadd, hp, hreplyTo, hpurpose, hwork, hqueue⟩ := e.add_eq replyTo
    (.resolve type.base (name ++ "." ++ type.base) interfaceIndex e.settings.resolveTimeoutMs) .ask
  refine ⟨d, e', p, ?_, hp, hreplyTo, hbase ▸ hpurpose, hwork, hqueue⟩
  simp only [start, hof, startResolve, hname, if_false]
  exact congrArg (fun x => (x.1, x.2, [])) hadd

end

def hear (room : Nat) (e : Engine) (h : Handle) : List String → Engine
  | [] => e
  | name :: names => (e.emit room h "Added" name 1).2.1.hear room h names

def addition (type : ServiceType) (interfaceIndex : Int) (name : String) : Reply :=
  .browse 2 interfaceIndex ErrorCode.noError (instanceName name type.base) (some type.reply)
    (some localDomain)

theorem hear_one {type : ServiceType} {interfaceIndex : Int} {browser : Nat} (room : Nat)
    (name : String) (hp : e.endpoint? h = some p)
    (hbrowse : p.purpose = .browse type interfaceIndex browser) (hopen : p.queue.Open) :
    ∃ queue, (e.emit room h "Added" name 1).2.1.endpoint? h = some { p with queue } ∧ queue.Open ∧
      queue.events = p.queue.events ++ [addition type interfaceIndex name] := by
  obtain ⟨queue, hpost, hqueue, hevents⟩ := hopen.post room (addition type interfaceIndex name)
  have hchange : p.change room "Added" name =
      (none, { p with queue }, [.notice (.stateChanged "Added" name type.full)]) := by
    have hflags : Endpoint.changeFlags? "Added" = some 2 := rfl
    rw [addition] at hpost
    simp only [Endpoint.change, hbrowse, hflags, Endpoint.post, hpost]
  refine ⟨queue, ?_, hqueue, hevents⟩
  simp only [emit, hp, hchange]
  exact endpoint?_modify _ hp

theorem endpoint?_hear {type : ServiceType} {interfaceIndex : Int} {browser : Nat} (room : Nat)
    (names : List String) (hp : e.endpoint? h = some p)
    (hbrowse : p.purpose = .browse type interfaceIndex browser) (hopen : p.queue.Open) :
    ∃ queue, (e.hear room h names).endpoint? h = some { p with queue } ∧ queue.Open ∧
      queue.events = p.queue.events ++ names.map (addition type interfaceIndex) := by
  induction names generalizing e p with
  | nil => exact ⟨p.queue, hp, hopen, by simp⟩
  | cons name names ih =>
    obtain ⟨first, hfirst, hfirstOpen, hevents⟩ := hear_one room name hp hbrowse hopen
    obtain ⟨queue, hlast, hqueue, hall⟩ := ih hfirst hbrowse hfirstOpen
    exact ⟨queue, hlast, hqueue, by simp [hall, hevents]⟩

theorem take_eq (hp : e.endpoint? h = some p) (hopen : p.queue.Open) :
    ∃ e' queue, e.take h = (.ok p.queue.events, e') ∧ e'.endpoint? h = some { p with queue } ∧
    queue.Open := by
  obtain ⟨queue, htake, hqueue, -⟩ := hopen.take
  refine ⟨e.modify h fun p => { p with queue }, queue, ?_, endpoint?_modify _ hp, hqueue⟩
  simp only [take, hp, htake]

theorem nextReply_cons (hp : e.endpoint? h = some p) (hopen : p.queue.Open) (r : Reply)
    (rest : List Reply) :
    e.nextReply h (r :: rest) = some (if rest.isEmpty then r else r.withMoreComing, rest) := by
  have hclosed : e.isClosed h = false := by simp [isClosed, hp, hopen.closed]
  simp only [nextReply, hclosed, Bool.false_eq_true, if_false]

/-- A reply is handed over from the front of the batch, by an endpoint that is not closed. -/
theorem exists_of_nextReply {batch : List Reply} {found : Reply × List Reply}
    (hnext : e.nextReply h batch = some found) :
    e.isClosed h = false ∧ ∃ r rest, batch = r :: rest ∧
      found = (if rest.isEmpty then r else r.withMoreComing, rest) := by
  cases batch with
  | nil => cases hnext
  | cons r rest =>
    simp only [nextReply] at hnext
    split at hnext
    · cases hnext
    · rename_i hopen
      exact ⟨by simpa using hopen, r, rest, rfl, (Option.some.inj hnext).symm⟩

end Engine

def Effect.registering? : Effect → Option ServiceInfo
  | .call (.register info) => some info
  | _ => none

def registering (effects : List Effect) : List ServiceInfo := effects.filterMap Effect.registering?

namespace Endpoint
variable {p : Endpoint} {info : ServiceInfo} {name reply : String}

/-- A thread asks in its first step only. -/
theorem workStep_of_ne_ask (net : Network) (hwork : p.work ≠ .ask) :
    (p.workStep net).2.1.work ≠ .ask ∧ registering (p.workStep net).2.2 = [] := by
  unfold workStep
  split
  · exact absurd ‹_› hwork
  · split <;> exact ⟨by simp, rfl⟩
  · exact ⟨by simp, rfl⟩
  · exact ⟨by simp, rfl⟩
  · exact ⟨by simp, rfl⟩

theorem registering_workSteps (net : Network) (n : Nat) (hwork : p.work ≠ .ask) :
    registering (p.workSteps net n).2.2 = [] := by
  induction n generalizing p with
  | zero => rfl
  | succ n ih =>
    obtain ⟨hnext, hfirst⟩ := workStep_of_ne_ask net hwork
    rw [workSteps]
    split
    · rename_i hstep
      rw [hstep] at hfirst
      exact hfirst
    · rename_i e effects hstep
      rw [hstep] at hfirst hnext
      rw [registering] at hfirst ⊢
      rw [List.filterMap_append, hfirst, List.nil_append]
      exact ih hnext

theorem registering_finish (net : Network) (hwork : p.work = .ask)
    (hp : p.purpose = .register info name reply) : registering (p.finish net).2.2 = [info] := by
  have hask : (p.ask net).1.work ≠ .ask ∧ registering (p.ask net).2 = [info] := by
    simp only [ask, hp]
    cases net.verdict info <;> exact ⟨by simp, rfl⟩
  obtain ⟨hnext, hfirst⟩ := hask
  have hlater := registering_workSteps net 2 hnext
  rw [registering] at hfirst hlater ⊢
  simp only [finish, workLength, workSteps, workStep, hwork, List.filterMap_append, hfirst]
  exact congrArg (info :: ·) hlater

theorem finish_resolve {baseType fullname found : String} {interfaceIndex timeoutMs : Int}
    {server : Option String} {port : Option Int} {txt : Option Text.Octets} (net : Network)
    (hwork : p.work = .ask) (hp : p.purpose = .resolve baseType fullname interfaceIndex timeoutMs)
    (hopen : p.queue.Open) (hfound : net.lookUp fullname = .found found server port txt) :
    ∃ queue, p.finish net = (none, { p with queue, work := .finished },
        [.call (.lookUp baseType fullname timeoutMs)]) ∧ queue.Open ∧
      queue.events = p.queue.events ++
        [lookedUp fullname interfaceIndex (.found found server port txt)] := by
  obtain ⟨queue, hpost, hqueue, hevents⟩ :=
    hopen.post net.room (lookedUp fullname interfaceIndex (.found found server port txt))
  refine ⟨queue, ?_, hqueue, hevents⟩
  simp only [finish, workLength, workSteps, workStep, hwork, ask, hp, hfound, post, hpost,
    List.append_nil]

end Endpoint
end ServiceDiscovery.Multicast
