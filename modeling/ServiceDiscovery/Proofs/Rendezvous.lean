import ServiceDiscovery.Proofs.Advertisement
import ServiceDiscovery.Proofs.Hearing

/-!
Two parties on one network. What the one announces the other one finds under the same instance id,
and a resolve of what it found asks for the full name that was registered and shows what was
announced.
-/
namespace ServiceDiscovery
open Multicast
open ServiceDiscovery.Text (Octets)

theorem Loop.startRequest?_announce {l : Loop} {ad : Advertisement} {c : Client}
    {asked : StartRequest} (h : l.startRequest? (.announce ad c) = some asked) :
    ∃ txt, l.session.packed l.records ad = .ok txt ∧ asked = l.session.registerRequest ad txt := by
  simp only [startRequest?] at h
  split at h
  · cases h
  · split at h
    · exact ⟨_, ‹_›, (Option.some.inj h).symm⟩
    · cases h

theorem Session.reads_packed {s : Session} {rs : Records} {ad : Advertisement} {txt : Octets}
    (h : s.packed rs ad = .ok txt) :
    Txt.prefixOf txt = ad.namePrefix ∧ Txt.certificateOf txt = ad.certificate := by
  obtain ⟨-, -, hdecodes⟩ := packed_eq_ok h
  refine ⟨by simp [Txt.prefixOf, hdecodes, Except.toOption], ?_⟩
  by_cases hnil : ad.certificate = [] <;> simp [Txt.certificateOf, hdecodes, Except.toOption, hnil]

namespace Peer
open Session
variable {p : Peer} {h : Handle} {d timeoutMs id : Int} {endpoint : Endpoint}
  {transport : Transport} {q : BrowseRequest} {around : Surroundings}

/-- An announcement for which something was started has a thread that registers just what is
announced. -/
theorem call_announce {ad : Advertisement} {c : Client} {o : Opening} (hs : p.loop.session.Sound)
    (ho : o ∈ openings (p.call around (.announce ad c)).outputs)
    (hcode : ad.transportCode = transport.code) :
    ∃ txt endpoint info, p.loop.session.packed p.loop.records ad = .ok txt ∧
      (p.call around (.announce ad c)).peer.engine.endpoint? o.handle = some endpoint ∧
      endpoint.work = .ask ∧
      endpoint.purpose =
        .register info p.loop.session.uuid (serviceType transport ad.subtype).reply ∧
      info.name = p.loop.session.uuid ++ "." ++ (serviceType transport ad.subtype).base ∧
      info.type = (serviceType transport ad.subtype).full ∧ info.port = ad.port ∧
      info.txt = txt := by
  rw [call_outputs] at ho
  obtain ⟨r, hm⟩ := Loop.opened_step hs ho
  obtain ⟨-, hanswer⟩ := Move.request.inj hm
  rw [call_engine]
  cases hask : p.loop.startRequest? (.announce ad c) with
  | none => simp [ask, hask, unasked] at hanswer
  | some asked =>
    obtain ⟨txt, hpacked, rfl⟩ := Loop.startRequest?_announce hask
    simp only [ask, hask] at hanswer ⊢
    rw [registerRequest, hcode] at hanswer ⊢
    obtain ⟨endpoint, info, hendpoint, hwork, hpurpose, hname, htype, hport, htxt⟩ :=
      Engine.start_register hanswer
    exact ⟨txt, endpoint, info, hpacked, hendpoint, hwork, hpurpose, hname, htype, hport, htxt⟩

theorem getD_domain? (domain : String) : (domain? domain).getD "" = domain := by
  unfold domain?
  split <;> simp_all

theorem call_browse {k : Constraints} (c : Client) (hs : p.loop.session.Sound)
    (hopen : p.loop.session.closed = false) (hstack : p.loop.stack = [])
    (hcode : k.transportCode = transport.code) (hdomain : isLocalDomain k.domain = true)
    (hfault : around.browserFault = none) :
    ∃ p' os h d n endpoint id, p.call around (.browse k c) =
        ⟨p', os, [.notice (.browsing (serviceType transport k.subtype).full),
          .call (.browse n (serviceType transport k.subtype).full)]⟩ ∧
      openings os = [⟨h, d, p.loop.session.browseRequest k⟩] ∧ p'.Awaits d h endpoint ∧
      p'.loop.session.uuid = p.loop.session.uuid ∧
      p'.loop.session.registry.browses.get? id =
        some { id, handle := h, constraints := k, client := c } ∧
      endpoint.replyTo = .browse id ∧
      endpoint.purpose = .browse (serviceType transport k.subtype) k.interfaceIndex n ∧
      endpoint.queue = {} := by
  have hask : p.loop.startRequest? (.browse k c) = some (p.loop.session.browseRequest k) := by
    simp [Loop.startRequest?, hopen]
  have hrequest : p.loop.session.browseRequest k =
      ⟨.browse k.interfaceIndex (RegType.make transport.code k.subtype) (domain? k.domain),
        .browse p.loop.session.registry.browses.nextId⟩ := by rw [browseRequest, hcode]
  obtain ⟨d, engine, n, endpoint, hstart, hendpoint, hreplyTo, hpurpose, hqueue⟩ :=
    p.engine.start_browse transport k.subtype k.interfaceIndex
      (.browse p.loop.session.registry.browses.nextId)
        ((getD_domain? k.domain).symm ▸ hdomain) hfault
  obtain ⟨os, hturn, hos⟩ := browse_started p.loop.records hs hopen k c p.engine.endpoints.length d
  have hbrowsing : Transition {} p.loop.session p.loop.records
      (.request (.browse k c) (.started p.engine.endpoints.length d)) _ := .browsing hopen hos
  have hsound := hbrowsing.sound hs
  have hm := hs.inStep hopen
  refine ⟨_, _, p.engine.endpoints.length, d, n, endpoint, p.loop.session.registry.browses.nextId,
    call_eq hstack hask (hrequest ▸ hstart) (congrArg p.loop.settle hturn), ?_,
    ⟨hsound, hopen, rfl, hm.ready_add (hs.muxClosed.trans hopen) _ _,
      hm.isWatching_add _ _, hendpoint, hqueue ▸ Queue.open_empty⟩,
    rfl, hs.browses.get?_insert_nextId _, hreplyTo, hpurpose, hqueue⟩
  rw [openings_append, hos.openings]
  rfl

theorem call_resolve {i : RecordId} {r : Record} (around : Surroundings) (subtype : String)
    (c : Client) (hs : p.loop.session.Sound) (hopen : p.loop.session.closed = false)
    (hstack : p.loop.stack = []) (hq : p.loop.session.registry.browses.get? id = some q)
    (hi : q.discovered.lookup r.uuid = some i) (hr : p.loop.records.get? i = some r)
    (hname : r.uuid ≠ "") (hregtype : r.regtype = (serviceType transport subtype).reply)
    (hdomain : r.domain = localDomain) :
    ∃ p' os h d endpoint id browseId, p.call around (.resolve i c) = ⟨p', os, []⟩ ∧
      openings os = [⟨h, d, p.loop.session.resolveRequest p.loop.records i⟩] ∧
      p'.Awaits d h endpoint ∧
      p'.loop.records = p.loop.records ∧
      p'.loop.session.registry.resolves.get? id = some ⟨id, h, i, browseId, c⟩ ∧
      endpoint.replyTo = .resolve id ∧
      endpoint.purpose = .resolve (serviceType transport subtype).base
        (r.uuid ++ "." ++ (serviceType transport subtype).base) r.interfaceIndex
        p.engine.settings.resolveTimeoutMs ∧
      endpoint.work = .ask ∧ endpoint.queue = {} := by
  have hget : p.loop.records.get i = r := by simp [Records.get, hr]
  have htracked : (p.loop.session.tracker? p.loop.records i).isSome := by
    rw [tracker?, Registry.findDiscovered, List.find?_isSome, hget]
    exact ⟨q, RequestTable.mem_values_of_get? hq, by simp [hi]⟩
  obtain ⟨tracker, htracker⟩ := Option.isSome_iff_exists.mp htracked
  have hask : p.loop.startRequest? (.resolve i c) =
      some (p.loop.session.resolveRequest p.loop.records i) := by
    simp [Loop.startRequest?, hopen, htracker]
  have hrequest : p.loop.session.resolveRequest p.loop.records i =
      ⟨.resolve r.interfaceIndex r.uuid (serviceType transport subtype).reply localDomain,
        .resolve p.loop.session.registry.resolves.nextId⟩ := by
    simp only [resolveRequest, hget, hregtype, hdomain]
  obtain ⟨d, engine, endpoint, hstart, hendpoint, hreplyTo, hpurpose, hwork, hqueue⟩ :=
    p.engine.start_resolve around transport subtype r.interfaceIndex
      (.resolve p.loop.session.registry.resolves.nextId) hname
  obtain ⟨os, hturn, hos⟩ := resolve_started hs hopen htracker c p.engine.endpoints.length d
  have hresolving : Transition {} p.loop.session p.loop.records
      (.request (.resolve i c) (.started p.engine.endpoints.length d)) _ :=
        .resolving hopen htracker hos
  have hsound := hresolving.sound hs
  have hm := hs.inStep hopen
  refine ⟨_, _, p.engine.endpoints.length, d, endpoint,
    p.loop.session.registry.resolves.nextId, tracker.id,
    call_eq hstack hask (hrequest ▸ hstart) (congrArg p.loop.settle hturn), ?_,
    ⟨hsound, hopen, rfl, hm.ready_add (hs.muxClosed.trans hopen) _ _,
      hm.isWatching_add _ _, hendpoint, hqueue ▸ Queue.open_empty⟩,
    rfl, hs.resolves.get?_insert_nextId _, hreplyTo, hpurpose, hwork, hqueue⟩
  rw [openings_append, hos.openings]
  rfl

theorem Awaits.hear {type : ServiceType} {interfaceIndex : Int} {n : Nat}
    (hp : p.Awaits d h endpoint) (room : Nat) (names : List String)
    (hpurpose : endpoint.purpose = .browse type interfaceIndex n) :
    ∃ queue, (p.hear room h names).Awaits d h { endpoint with queue } ∧
      queue.events = endpoint.queue.events ++ names.map (Engine.addition type interfaceIndex) := by
  obtain ⟨queue, hendpoint, hqueue, hevents⟩ :=
    Engine.endpoint?_hear room names hp.endpoint? hpurpose hp.queue
  exact ⟨queue, ⟨hp.sound, hp.opened, hp.stack, hp.ready, hp.watching, hendpoint, hqueue⟩, hevents⟩

theorem Awaits.work_resolve {baseType fullname found : String} {interfaceIndex lookupMs : Int}
    {server : Option String} {port : Option Int} {txt : Option Octets} {net : Network}
    (hp : p.Awaits d h endpoint) (hwork : endpoint.work = .ask)
    (hpurpose : endpoint.purpose = .resolve baseType fullname interfaceIndex lookupMs)
    (hfound : net.lookUp fullname = .found found server port txt) :
    ∃ p' endpoint', p.work net h = ⟨p', [], [.call (.lookUp baseType fullname lookupMs)]⟩ ∧
      p'.Awaits d h endpoint' ∧ p'.loop = p.loop ∧ endpoint'.replyTo = endpoint.replyTo ∧
      endpoint'.queue.events = endpoint.queue.events ++
        [Endpoint.lookedUp fullname interfaceIndex (.found found server port txt)] := by
  obtain ⟨queue, hfinish, hqueue, hevents⟩ :=
    Endpoint.finish_resolve net hwork hpurpose hp.queue hfound
  let endpoint' := { endpoint with queue, work := .finished }
  refine ⟨{ p with engine := p.engine.modify h fun _ => endpoint' }, endpoint', ?_,
    ⟨hp.sound, hp.opened, hp.stack, hp.ready, hp.watching,
      Engine.endpoint?_modify _ hp.endpoint?, hqueue⟩, rfl, rfl, hevents⟩
  simp only [work, hp.endpoint?, hfinish]
  rfl

theorem run_answered {q : ResolveRequest} {flags interfaceIndex port : Int}
    {fullname host : Option String} {txt : Octets} (hp : p.Awaits d h endpoint)
    (htimeout : timeoutMs ≠ 0 ∧ timeoutMs.natAbs < timeLimit)
    (hreplyTo : endpoint.replyTo = .resolve id)
    (hevents : endpoint.queue.events =
      [.resolve flags interfaceIndex ErrorCode.noError fullname host port txt])
    (hq : p.loop.session.registry.resolves.get? id = some q) (hgiven : Txt.prefixOf txt ≠ "") :
    (p.run timeoutMs d).1.loop.records = p.loop.records.modify q.target
        (located fullname host port (Txt.prefixOf txt) (Txt.certificateOf txt)) ∧
      (q.client.onResult = true →
        ⟨q.client, .resolved q.browseId q.target⟩ ∈ invocations (p.run timeoutMs d).2) := by
  obtain ⟨engine, queue, hendpoint, hqueue, hrun⟩ := hp.run_eq htimeout hreplyTo
  have hquiet : CloseFaults.escaping {} q.handle = none := rfl
  obtain ⟨first, hturn, hfirst⟩ :=
    onResolveReply_answered p.loop.records hq hquiet ErrorCode.noError fullname host port txt
  have hsettlement : settlement p.loop.records q ErrorCode.noError fullname host port txt =
      (p.loop.records.modify q.target
        (located fullname host port (Txt.prefixOf txt) (Txt.certificateOf txt)),
        .resolved q.browseId q.target) := by
    simp [settlement, hgiven]
  rw [hsettlement] at hturn
  have hreply : p.loop.session.onReply {} p.loop.records (.resolve id)
      (.resolve flags interfaceIndex ErrorCode.noError fullname host port txt) =
      p.loop.session.onResolveReply {} p.loop.records id ErrorCode.noError fullname host port txt :=
        rfl
  have hok : (Next.tell q.client (.resolved q.browseId q.target) (.ok none)).outcome = .ok none :=
    Next.outcome_tell _ _ _
  have hdeliver := deliver_one
    (p := ⟨⟨p.loop.session, p.loop.records, [.pumping d h, .passing timeoutMs []]⟩, engine⟩)
    rfl hendpoint hqueue (hreply.trans hturn) hok
  rw [← hevents] at hdeliver
  rw [hrun _ _ hdeliver rfl hp.opened]
  refine ⟨rfl, fun hwants => ?_⟩
  have hwants : q.client.wants (.resolved q.browseId q.target) = true := hwants
  rw [mem_invocations]
  simp [hwants]

/-- A network on which browsers hear of all that is registered, and which finds it as it was
registered. -/
structure Faithful (net : Network) (reports : String → List String)
    (registered : List ServiceInfo) :
    Prop where
  heard : ∀ info ∈ registered, info.name ∈ reports info.type
  found : ∀ info ∈ registered,
    net.lookUp info.name = .found info.name (some info.server) (some info.port) (some info.txt)

/-- Announced by the one, found and resolved by the other: the instance id, the transport, the full
name and the details of the service come through unchanged. -/
theorem announced_is_found {ka : History} {ea : Engine} {around₁ : Surroundings} {net : Network}
    {reports : String → List String} {others : List ServiceInfo} {ad : Advertisement}
    {transport : Transport} {ca : Client} {o : Opening} (kb : History) (eb : Engine)
    (around₂ around₃ : Surroundings) (k : Constraints) (cb cr : Client) (t₁ t₂ : Int)
    (hnamed : ka.loop.session.uuid ≠ "") (hdistinct : ka.loop.session.uuid ≠ kb.loop.session.uuid)
    (haccepted : o ∈ openings (call around₁ ⟨ka.loop, ea⟩ (.announce ad ca)).outputs)
    (hopen : kb.loop.session.closed = false) (hstack : kb.loop.stack = [])
    (hcode : ad.transportCode = transport.code) (hsame : k.transportCode = transport.code)
    (hsubtype : k.subtype = ad.subtype) (hdomain : isLocalDomain k.domain = true)
    (hbrowser : around₂.browserFault = none) (ht₁ : t₁ ≠ 0 ∧ t₁.natAbs < timeLimit)
    (ht₂ : t₂ ≠ 0 ∧ t₂.natAbs < timeLimit) (hcb : cb.onResult = true) (hcr : cr.onResult = true)
    (hnet : Faithful net reports (others ++ registering
      ((call around₁ ⟨ka.loop, ea⟩ (.announce ad ca)).peer.work net o.handle).effects)) :
    ∃ info,
      registering ((call around₁ ⟨ka.loop, ea⟩ (.announce ad ca)).peer.work net o.handle).effects =
        [info] ∧
      ∃ b₁ os₁ h d n, call around₂ ⟨kb.loop, eb⟩ (.browse k cb) =
          ⟨b₁, os₁, [.notice (.browsing info.type), .call (.browse n info.type)]⟩ ∧
        openings os₁ = [⟨h, d, kb.loop.session.browseRequest k⟩] ∧
      ∃ b₂ os₂ id i r, (b₁.hear net.room h (reports info.type)).run t₁ d = (b₂, os₂) ∧
        ⟨cb, .added id i⟩ ∈ invocations os₂ ∧ b₂.loop.records.get? i = some r ∧
        r.uuid = ka.loop.session.uuid ∧ r.transport = transport ∧ r.domain = "local." ∧
        r.state = .discovered ∧
      ∃ b₃ os₃ h' d', call around₃ b₂ (.resolve i cr) = ⟨b₃, os₃, []⟩ ∧
        openings os₃ = [⟨h', d', b₂.loop.session.resolveRequest b₂.loop.records i⟩] ∧
      ∃ b₄ base lookupMs, b₃.work net h' = ⟨b₄, [], [.call (.lookUp base info.name lookupMs)]⟩ ∧
      ∃ b₅ os₅ id' r', b₄.run t₂ d' = (b₅, os₅) ∧ ⟨cr, .resolved id' i⟩ ∈ invocations os₅ ∧
        b₅.loop.records.get? i = some r' ∧ r'.uuid = ka.loop.session.uuid ∧
        r'.shown.namePrefix = ad.namePrefix ∧ r'.shown.port = ad.port ∧
        r'.shown.certificate = ad.certificate := by
  -- the one that announces
  obtain ⟨txt, registrar, info, hpacked, hregistrar, hwork, hpurpose, hname, htype, hport, htxt⟩ :=
    call_announce ka.sound haccepted hcode
  have hregistering : registering
      ((call around₁ ⟨ka.loop, ea⟩ (.announce ad ca)).peer.work net o.handle).effects = [info] := by
    simp only [work, hregistrar]
    exact Endpoint.registering_finish net hwork hpurpose
  rw [hregistering] at hnet ⊢
  have hheard := hnet.heard info (by simp)
  have hfound := hnet.found info (by simp)
  obtain ⟨hgiven, -, -⟩ := packed_eq_ok hpacked
  obtain ⟨hprefixOf, hcertificateOf⟩ := reads_packed hpacked
  -- the one that browses
  obtain ⟨b₁, os₁, h, d, n, browsing, id, hbrowse, hopened, hb₁, huuid, hlive, hreplyTo,
      hpurpose, hqueue⟩ :=
    call_browse (p := ⟨kb.loop, eb⟩) cb kb.sound hopen hstack hsame hdomain hbrowser
  rw [hsubtype, ← htype] at hbrowse
  obtain ⟨queue, hheld, hevents⟩ := hb₁.hear net.room (reports info.type) hpurpose
  rw [hqueue] at hevents
  obtain ⟨s, rs, engine, q, os₂, hrun, hmore, hall⟩ :=
    run_additions hheld ht₁ hreplyTo hevents hlive (transport?_reply transport k.subtype)
  have hmember : ka.loop.session.uuid ∈
      (reports info.type).map (instanceName · (serviceType transport k.subtype).base) := by
    rw [hsubtype]
    exact List.mem_map.mpr ⟨info.name, hheard, by rw [hname, instanceName_append]⟩
  have hnotSelf : ka.loop.session.uuid ≠ b₁.loop.session.uuid := huuid ▸ hdistinct
  obtain ⟨i, hi, hr, htold⟩ := hall _ hmember hnotSelf rfl
  have hfresh : ∃ r, rs.get? i = some r ∧ r.uuid = ka.loop.session.uuid ∧ r.transport = transport ∧
      r.domain = localDomain ∧ r.state = .discovered ∧
        r.regtype = (serviceType transport k.subtype).reply :=
    ⟨_, hr, rfl, rfl, rfl, rfl, rfl⟩
  obtain ⟨r, hr, hrUuid, hrTransport, hrDomain, hrState, hrRegtype⟩ := hfresh
  -- the resolve of the record that it found
  obtain ⟨b₃, os₃, h', d', resolving, id', browseId, hresolve, hopened', hb₃, hrecords,
      hlive', hreplyTo', hpurpose', hwork', hqueue'⟩ :=
    call_resolve (p := ⟨⟨s, rs, []⟩, engine⟩) around₃ k.subtype cr hmore.sound
      (hmore.closed.trans hb₁.opened) rfl hmore.live (hrUuid ▸ hi) hr (hrUuid ▸ hnamed)
        hrRegtype hrDomain
  rw [hrUuid, hsubtype, ← hname] at hpurpose'
  obtain ⟨b₄, answered, hlookUp, hb₄, hloop, hreplyTo₄, hevents'⟩ :=
    hb₃.work_resolve hwork' hpurpose' hfound
  rw [hqueue'] at hevents'
  rw [← hloop] at hlive'
  have hgiven' : Txt.prefixOf info.txt ≠ "" := by rwa [htxt, hprefixOf]
  obtain ⟨hlocated, hresolved⟩ :=
    run_answered hb₄ ht₂ (hreplyTo₄.trans hreplyTo') hevents' hlive' hgiven'
  have hfinal := congrArg (Records.get? · i) hlocated
  simp only [hloop, hrecords, Records.get?_modify_self, hr, Option.map_some] at hfinal
  refine ⟨info, rfl, b₁, os₁, h, d, n, hbrowse, hopened, _, os₂, id, i, r, hrun,
    htold hcb, hr, hrUuid,
    hrTransport, hrDomain, hrState, b₃, os₃, h', d', hresolve, hopened', b₄, _, _, hlookUp, _, _,
    browseId, _, rfl, hresolved hcr, hfinal, hrUuid, ?_, ?_, ?_⟩
  · exact (congrArg Txt.prefixOf htxt).trans hprefixOf
  · exact hport
  · exact (congrArg Txt.certificateOf htxt).trans hcertificateOf

example : isLocalDomain "" = true ∧ isLocalDomain "local" = true := by decide +kernel

namespace Meeting

def host : Surroundings where
  host := ⟨"box.example", .ok ["10.0.0.1"]⟩

def dotted : Peer := ⟨(History.start "a.b" {} true {}).loop, {}⟩
def seeker : Peer := ⟨(History.start "b" {} true {}).loop, {}⟩

def flyer : Advertisement where
  transportCode := 2
  subtype := " Mesh ,x"
  domain := "local"
  port := 6363
  namePrefix := "/é=p"
  certificate := [0x63, 0x3d, 0x00]

def wanted : Constraints where
  transportCode := 2
  subtype := " Mesh ,x"

def posted : Progress := dotted.call host (.announce flyer { ticket := 1 })

def service : ServiceInfo where
  type := "Mesh._sub._ndn._tcp.local."
  name := "a.b._ndn._tcp.local."
  port := 6363
  txt := Txt.pack (Txt.allStrings (Text.encode "/é=p") [0x63, 0x3d, 0x00])
  server := "box.local."
  addresses := ["10.0.0.1"]

def network : Network where
  lookUp name := if name = service.name then
      .found service.name (some service.server) (some service.port) (some service.txt)
    else .missing
  verdict _ := .accepted
  room := 1

def reports (type : String) : List String :=
  if type = service.type then ["c._ndn._tcp.local.", service.name] else []

theorem announced_is_found_dotted :
    registering (posted.peer.work network 0).effects = [service] ∧
    ∃ b₁ os₁ h d n, seeker.call host (.browse wanted { ticket := 2 }) =
        ⟨b₁, os₁, [.notice (.browsing "Mesh._sub._ndn._tcp.local."),
          .call (.browse n "Mesh._sub._ndn._tcp.local.")]⟩ ∧
      ∃ b₂ os₂ i, (b₁.hear 1 h ["c._ndn._tcp.local.", "a.b._ndn._tcp.local."]).run 5 d = (b₂, os₂) ∧
        (b₂.loop.records.get i).uuid = "a.b" ∧ (b₂.loop.records.get i).transport = .tcp ∧
      ∃ b₃ os₃ h' d', b₂.call host (.resolve i { ticket := 3 }) = ⟨b₃, os₃, []⟩ ∧
      ∃ b₄ base lookupMs, b₃.work network h' =
          ⟨b₄, [], [.call (.lookUp base "a.b._ndn._tcp.local." lookupMs)]⟩ ∧
        ((b₄.run 5 d').1.loop.records.get i).shown.namePrefix = "/é=p" ∧
        ((b₄.run 5 d').1.loop.records.get i).shown.port = 6363 ∧
        ((b₄.run 5 d').1.loop.records.get i).shown.certificate = [0x63, 0x3d, 0x00] := by
  have haccepted :
      (⟨0, 3, ⟨.register 0 "a.b" "_ndn._tcp, Mesh ,x" (some "local") 6363 service.txt, .register⟩⟩ :
      Opening) ∈ openings posted.outputs := by decide +kernel
  have htime : (5 : Int) ≠ 0 ∧ (5 : Int).natAbs < timeLimit := by decide +kernel
  have htcp : flyer.transportCode = Transport.tcp.code := rfl
  have hregistering : registering (posted.peer.work network 0).effects = [service] := by
    decide +kernel
  have hnet :
      Faithful network reports ([] ++ registering (posted.peer.work network 0).effects) := by
    rw [hregistering]
    exact ⟨by decide +kernel, by decide +kernel⟩
  obtain ⟨info, hinfo, b₁, os₁, h, d, n, hbrowse, -, b₂, os₂, -, i, r, hrun, -, hr, hruuid,
      htransport, -, -,
      b₃, os₃, h', d', hresolve, -, b₄, base, lookupMs, hlookUp, b₅, os₅, -, r', hlast, -,
      hr', -, hgiven, hport, hcertificate⟩ :=
    announced_is_found (.start "b" {} true {}) {} host host wanted { ticket := 2 }
      { ticket := 3 } 5 5
      (by decide +kernel) (by decide +kernel) haccepted rfl rfl htcp rfl rfl (by decide +kernel) rfl
      htime htime rfl rfl hnet
  obtain rfl : service = info := List.singleton_inj.mp (hregistering.symm.trans hinfo)
  have hget : b₂.loop.records.get i = r := by simp [Records.get, hr]
  have hget' : (b₄.run 5 d').1.loop.records.get i = r' := by simp [hlast, Records.get, hr']
  have hheard : reports service.type = ["c._ndn._tcp.local.", service.name] := by decide +kernel
  rw [hheard] at hrun
  rw [← hget] at hruuid htransport
  rw [← hget'] at hgiven hport hcertificate
  exact ⟨hregistering, b₁, os₁, h, d, n, hbrowse, b₂, os₂, i, hrun, hruuid, htransport, b₃,
    os₃, h', d', hresolve, b₄, base, lookupMs, hlookUp, hgiven, hport, hcertificate⟩

end Meeting
end Peer
end ServiceDiscovery
