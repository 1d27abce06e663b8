import ServiceDiscovery.Proofs.Peer

/-!
What a browse hears. Every instance that the network names is tracked under its instance id after
the next run, and the client is told of each that is new.
-/
namespace ServiceDiscovery
open Multicast

namespace BrowseRequest
variable {name name' : String} {i : RecordId} {ds : List (String × RecordId)}

theorem lookup_putRecord_self (name : String) (i : RecordId) (ds : List (String × RecordId)) :
    (putRecord name i ds).lookup name = some i := by
  induction ds with
  | nil => simp [putRecord]
  | cons e es ih =>
    by_cases he : e.1 = name
    · simp [putRecord, he]
    · have hne : (name == e.1) = false := by simpa using Ne.symm he
      obtain ⟨n, j⟩ := e
      simp [putRecord, he, List.lookup_cons, hne, ih]

theorem lookup_putRecord_of_ne (h : name' ≠ name) (i : RecordId) (ds : List (String × RecordId)) :
    (putRecord name i ds).lookup name' = ds.lookup name' := by
  have hne : (name' == name) = false := by simpa using h
  induction ds with
  | nil => simp [putRecord, List.lookup_cons, hne]
  | cons e es ih =>
    obtain ⟨n, j⟩ := e
    by_cases he : n = name
    · subst he
      simp [putRecord, List.lookup_cons, hne]
    · cases hn : name' == n <;> simp [putRecord, he, List.lookup_cons, hn, ih]

end BrowseRequest

namespace Session
variable {s s' s'' : Session} {rs rs' rs'' : Records} {q q' q'' : BrowseRequest} {id : Int}

def sighted (type : ServiceType) (transport : Transport) (subtype : String) (interfaceIndex : Int)
    (name : String) : Record :=
  { Record.new name transport interfaceIndex subtype localDomain with
    regtype := type.reply, state := .discovered }

structure HeardMore (id : Int) (s : Session) (rs : Records) (q : BrowseRequest) (s' : Session)
    (rs' : Records) (q' : BrowseRequest) : Prop where
  sound : s'.Sound
  closed : s'.closed = s.closed
  uuid : s'.uuid = s.uuid
  live : s'.registry.browses.get? id = some q'
  constraints : q'.constraints = q.constraints
  client : q'.client = q.client
  kept : ∀ name i r, q.discovered.lookup name = some i → rs.get? i = some r →
    q'.discovered.lookup name = some i ∧ rs'.get? i = some r

theorem HeardMore.refl (hs : s.Sound) (hq : s.registry.browses.get? id = some q) :
    HeardMore id s rs q s rs q := ⟨hs, rfl, rfl, hq, rfl, rfl, fun _ _ _ hi hr => ⟨hi, hr⟩⟩

theorem HeardMore.trans (h : HeardMore id s rs q s' rs' q')
    (h' : HeardMore id s' rs' q' s'' rs'' q'') : HeardMore id s rs q s'' rs'' q'' where
  sound := h'.sound
  closed := h'.closed.trans h.closed
  uuid := h'.uuid.trans h.uuid
  live := h'.live
  constraints := h'.constraints.trans h.constraints
  client := h'.client.trans h.client
  kept name i r hi hr := h'.kept name i r (h.kept name i r hi hr).1 (h.kept name i r hi hr).2

theorem onBrowseReply_known {flags : Int} {name : String} (rs : Records) (interfaceIndex : Int)
    (hq : s.registry.browses.get? id = some q) (hflags : Reply.announces flags = true)
    (hknown : name = s.uuid ∨ (q.discovered.lookup name).isSome) (regtype domain : Option String) :
    ∃ os, s.onBrowseReply rs id flags interfaceIndex ErrorCode.noError name regtype domain =
      ⟨s, rs, os, .done (.ok none)⟩ ∧ Accounts os [] [] := by
  simp only [onBrowseReply, hq, ne_eq, not_true_eq_false, if_false, hflags, if_true, appear, idle]
  by_cases hname : name = s.uuid
  · simp only [hname, if_true]
    exact ⟨_, rfl, .nil⟩
  · simp only [hname, if_false, hknown.resolve_left hname, if_true]
    exact ⟨_, rfl, .notice _⟩

theorem onBrowseReply_new {flags : Int} {name : String} {type : ServiceType} {transport : Transport}
    (rs : Records) (interfaceIndex : Int) (hs : s.Sound) (hq : s.registry.browses.get? id = some q)
    (hflags : Reply.announces flags = true) (hname : name ≠ s.uuid)
    (hnew : q.discovered.lookup name = none) (ht : RegType.transport? type.reply = some transport) :
    ∃ os s' rs' q', s.onBrowseReply rs id flags interfaceIndex ErrorCode.noError name
      (some type.reply)
        (some localDomain) = ⟨s', rs', os, .tell q.client (.added id rs.nextId) (.ok none)⟩ ∧
      Accounts os [] [] ∧ HeardMore id s rs q s' rs' q' ∧
      q'.discovered.lookup name = some rs.nextId ∧
      rs'.get? rs.nextId = some (sighted type transport q.constraints.subtype interfaceIndex name) ∧
      ∀ name', name' ≠ name → q.discovered.lookup name' = none →
      q'.discovered.lookup name' = none := by
  have hid : q.id = id := hs.browses.id_of_get? hq
  have hturn : s.onBrowseReply rs id flags interfaceIndex ErrorCode.noError name (some type.reply)
      (some localDomain) =
        ⟨{ s with registry.browses := s.registry.browses.modify id (·.track name rs.nextId) },
        rs.add (sighted type transport q.constraints.subtype interfaceIndex name),
        [.notice (.appeared s.uuid id name (some type.reply) (some localDomain))],
        .tell q.client (.added id rs.nextId) (.ok none)⟩ := by
    simp [onBrowseReply, hq, hflags, appear, hname, hnew, ht, hid, sighted]
  refine ⟨_, _, _, q.track name rs.nextId, hturn, .notice _, ?_,
    BrowseRequest.lookup_putRecord_self _ _ _, Records.get?_add_self _ _,
    fun name' hne hnone => (BrowseRequest.lookup_putRecord_of_ne hne _ _).trans hnone⟩
  refine ⟨⟨hs.inStep, hs.muxClosed, hs.browses.modify fun q => q.id_track _ _, hs.resolves⟩,
    rfl, rfl, ?_, rfl, rfl, ?_⟩
  · simp [RequestTable.get?_modify_self, hq]
  · intro name' i r hi hr
    have hne : name' ≠ name := by
      rintro rfl
      rw [hnew] at hi
      cases hi
    refine ⟨(BrowseRequest.lookup_putRecord_of_ne hne _ _).trans hi, ?_⟩
    rw [Records.get?_add_of_isSome (by simp [hr]), hr]

end Session

namespace Peer
open Session
variable {p : Peer} {h : Handle} {d timeoutMs : Int} {endpoint : Endpoint} {type : ServiceType}
  {transport : Transport} {id : Int} {q : BrowseRequest}

theorem marked_addition (type : ServiceType) (interfaceIndex : Int) (name : String) (last : Bool) :
    ∃ flags, Reply.announces flags = true ∧
      (if last then Engine.addition type interfaceIndex name
        else (Engine.addition type interfaceIndex name).withMoreComing) =
      .browse flags interfaceIndex ErrorCode.noError (instanceName name type.base) (some type.reply)
        (some localDomain) := by
  cases last
  · exact ⟨3, rfl, rfl⟩
  · exact ⟨2, rfl, rfl⟩

/-- A batch of additions: every instance that is named in it is known afterwards, and the client was
told of it if it is new. -/
theorem deliver_additions (interfaceIndex : Int) (names : List String)
    (hstack : p.loop.stack = [.pumping d h, .passing timeoutMs []])
    (hendpoint : p.engine.endpoint? h = some endpoint) (hopen : endpoint.queue.Open)
    (hs : p.loop.session.Sound) (hq : p.loop.session.registry.browses.get? id = some q)
    (ht : RegType.transport? type.reply = some transport) :
    ∃ s rs q' os, deliver h (.browse id) (names.map (Engine.addition type interfaceIndex)) p =
        (⟨⟨s, rs, p.loop.stack⟩, p.engine⟩, os) ∧
      HeardMore id p.loop.session p.loop.records q s rs q' ∧
      ∀ name ∈ names.map (instanceName · type.base), name ≠ p.loop.session.uuid →
        q.discovered.lookup name = none → ∃ i, q'.discovered.lookup name = some i ∧
          rs.get? i = some (sighted type transport q.constraints.subtype interfaceIndex name) ∧
          (q.client.onResult = true → ⟨q.client, .added id i⟩ ∈ invocations os) := by
  induction names generalizing p q with
  | nil => exact ⟨_, _, q, [], rfl, .refl hs hq, fun _ hname => nomatch hname⟩
  | cons n ns ih =>
    obtain ⟨flags, hflags, hreply⟩ :=
      marked_addition type interfaceIndex n (ns.map (Engine.addition type interfaceIndex)).isEmpty
    have hbrowse : p.loop.session.onReply {} p.loop.records (.browse id)
        (.browse flags interfaceIndex ErrorCode.noError (instanceName n type.base) (some type.reply)
          (some localDomain)) = p.loop.session.onBrowseReply p.loop.records id flags interfaceIndex
            ErrorCode.noError (instanceName n type.base) (some type.reply) (some localDomain) := rfl
    by_cases hknown : instanceName n type.base = p.loop.session.uuid ∨
        (q.discovered.lookup (instanceName n type.base)).isSome
    · obtain ⟨first, hturn, hfirst⟩ := onBrowseReply_known p.loop.records interfaceIndex hq hflags
        hknown (some type.reply) (some localDomain)
      obtain ⟨s, rs, q', later, hdeliver, hmore, hall⟩ := ih hstack hendpoint hs hq
      rw [hturn] at hbrowse
      have hstep := deliver_cons hstack hendpoint hopen ((congrArg _ hreply).trans hbrowse) rfl
      simp only [hfirst.releases, List.foldl_nil, hdeliver] at hstep
      refine ⟨s, rs, q', _, hstep, hmore, fun name hname hne hnew => ?_⟩
      obtain rfl | hname := List.mem_cons.mp hname
      · simp [hne, hnew] at hknown
      · obtain ⟨i, hi, hr, htold⟩ := hall name hname hne hnew
        exact ⟨i, hi, hr, fun hwants => by simp [htold hwants]⟩
    · obtain ⟨hself, hsome⟩ := not_or.mp hknown
      have hnone := Option.not_isSome_iff_eq_none.mp hsome
      obtain ⟨first, s₁, rs₁, q₁, hturn, hfirst, hmore₁, hmade, hrecord, hother⟩ :=
        onBrowseReply_new p.loop.records interfaceIndex hs hq hflags hself hnone ht
      rw [hturn] at hbrowse
      have hstep := deliver_cons hstack hendpoint hopen ((congrArg _ hreply).trans hbrowse)
        (Next.outcome_tell _ _ _)
      obtain ⟨s, rs, q', later, hdeliver, hmore, hall⟩ :=
        ih (p := ⟨⟨s₁, rs₁, p.loop.stack⟩, p.engine⟩) hstack hendpoint hmore₁.sound hmore₁.live
      simp only [hfirst.releases, List.foldl_nil, hdeliver, Next.invocation?_tell] at hstep
      refine ⟨s, rs, q', _, hstep, hmore₁.trans hmore, fun name hname hne hnew => ?_⟩
      by_cases hthis : name = instanceName n type.base
      · subst hthis
        obtain ⟨hi, hr⟩ := hmore.kept _ _ _ hmade hrecord
        refine ⟨_, hi, hr, fun hwants => ?_⟩
        have hwants : q.client.wants (.added id p.loop.records.nextId) = true := hwants
        simp [hwants, mem_invocations]
      · have hlater := (List.mem_cons.mp hname).resolve_left hthis
        obtain ⟨i, hi, hr, htold⟩ := hall name hlater (hmore₁.uuid ▸ hne) (hother name hthis hnew)
        rw [hmore₁.constraints] at hr
        rw [hmore₁.client] at htold
        exact ⟨i, hi, hr, fun hwants => by simp [htold hwants]⟩

theorem run_additions {interfaceIndex : Int} {names : List String} (hp : p.Awaits d h endpoint)
    (htimeout : timeoutMs ≠ 0 ∧ timeoutMs.natAbs < timeLimit)
    (hreplyTo : endpoint.replyTo = .browse id)
    (hevents : endpoint.queue.events = names.map (Engine.addition type interfaceIndex))
    (hq : p.loop.session.registry.browses.get? id = some q)
    (ht : RegType.transport? type.reply = some transport) :
    ∃ s rs engine q' os, p.run timeoutMs d = (⟨⟨s, rs, []⟩, engine⟩, os) ∧
      HeardMore id p.loop.session p.loop.records q s rs q' ∧
      ∀ name ∈ names.map (instanceName · type.base), name ≠ p.loop.session.uuid →
        q.discovered.lookup name = none → ∃ i, q'.discovered.lookup name = some i ∧
          rs.get? i = some (sighted type transport q.constraints.subtype interfaceIndex name) ∧
          (q.client.onResult = true → ⟨q.client, .added id i⟩ ∈ invocations os) := by
  obtain ⟨engine, queue, hendpoint, hqueue, hrun⟩ := hp.run_eq htimeout hreplyTo
  obtain ⟨s, rs, q', os, hdeliver, hmore, hall⟩ := deliver_additions
    (p := ⟨⟨p.loop.session, p.loop.records, [.pumping d h, .passing timeoutMs []]⟩, engine⟩)
    interfaceIndex names rfl hendpoint hqueue hp.sound hq ht
  rw [← hevents] at hdeliver
  have hopened : s.closed = false := hmore.closed.trans hp.opened
  refine ⟨s, rs, _, q', _, hrun _ _ hdeliver rfl hopened, hmore, fun name hname hne hnew => ?_⟩
  obtain ⟨i, hi, hr, htold⟩ := hall name hname hne hnew
  refine ⟨i, hi, hr, fun hwants => ?_⟩
  have htold := mem_invocations.mp (htold hwants)
  rw [mem_invocations]
  exact List.mem_append_left _ (List.mem_cons_of_mem _ htold)

end Peer
end ServiceDiscovery
