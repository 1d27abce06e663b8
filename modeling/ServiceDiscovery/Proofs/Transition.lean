import ServiceDiscovery.Proofs.Turn
import ServiceDiscovery.Session.Loop

/-!
What a turn of a session can do, said once for all requests and replies: which handles it opens and
closes, whom it tells, and what becomes of requests, registration and records.
-/
namespace ServiceDiscovery

def Request.client? : Request → Option Client
  | .announce _ c => some c
  | .browse _ c => some c
  | .resolve _ c => some c
  | _ => none

namespace Session

def closing (s : Session) (rs : Records) : List Handle :=
  s.registry.resolves.values.map (·.handle) ++ s.registry.browses.values.map (·.handle) ++
    if (s.ownRecord rs).state.isActive then s.registration.toList.map (·.handle) else []

def Unmoved (s : Session) (rs : Records) : Move → Prop
  | .reply .register (.register ..) =>
    ∀ g, s.registration = some g → (s.ownRecord rs).state = .registered
  | .reply (.resolve id) (.resolve ..) => s.registry.resolves.get? id = none
  | _ => True

end Session

open Session in
/-- What a turn does, by what it answers. -/
inductive Transition (faults : CloseFaults) (s : Session) (rs : Records) : Move → Turn → Prop
  | idle {m os} (hm : s.Unmoved rs m) (hos : Accounts os [] []) {o} :
    Transition faults s rs m ⟨s, rs, os, .done o⟩
  | refused {r answer c os op id code why transient o} (hc : r.client? = some c)
      (hos : Accounts os [] []) :
      Transition faults s rs (.request r answer)
        ⟨s, rs, os, .tell c (.failed op id code why transient) o⟩
  | announced {a c h d os transport txt} (hopen : s.closed = false)
      (hidle : (s.ownRecord rs).state.isActive = false) (hpacked : s.packed rs a = .ok txt)
      (ht : Transport.ofCode? a.transportCode = some transport)
      (hos : Accounts os [⟨h, d, s.registerRequest a txt⟩] []) :
      Transition faults s rs (.request (.announce a c) (.started h d))
        ⟨{ s with registration := some ⟨h, c, false⟩, mux := (s.mux.add h d).2 },
          rs.modify s.own (advertised a transport), os, .done (.ok none)⟩
  /-- The transport is unknown: the operation runs, and nobody holds its handle. -/
  | orphaned {a c h d os txt f} (ht : Transport.ofCode? a.transportCode = none)
      (hos : Accounts os [⟨h, d, s.registerRequest a txt⟩] []) :
      Transition faults s rs (.request (.announce a c) (.started h d)) ⟨s, rs, os, .done (.error f)⟩
  | confirmed {g flags name regtype domain os} (hg : s.registration = some g)
      (hstate : (s.ownRecord rs).state ≠ .registered) (hos : Accounts os [] []) :
      Transition faults s rs
        (.reply .register (.register flags ErrorCode.noError name regtype domain))
        ⟨{ s with registration := some { g with settled := true } },
          rs.modify s.own (confirmedIn domain), os, .tell g.client .registered (.ok none)⟩
  | lost {g flags code name regtype domain os} (hg : s.registration = some g)
      (hcode : code ≠ ErrorCode.noError) (hfault : faults.escaping g.handle = none)
      (hos : Accounts os [] [g.handle]) :
      Transition faults s rs (.reply .register (.register flags code name regtype domain))
        ⟨{ s with registration := none, mux := (s.mux.remove g.handle).2 },
          rs.modify s.own fun r => { r with state := .created }, os,
          if g.settled then .done (.ok none)
          else .tell g.client (.failed .register (-1) code (ErrorCode.message code) true)
            (.ok none)⟩
  | lostFaulty {g flags code name regtype domain os f} (hg : s.registration = some g)
      (hfault : faults.escaping g.handle = some f) (hos : Accounts os [] [g.handle]) :
      Transition faults s rs (.reply .register (.register flags code name regtype domain))
        ⟨{ s with registration := none, mux := (s.mux.remove g.handle).2 }, rs, os,
          .done (.error f)⟩
  | browsing {k c h d os} (hopen : s.closed = false)
      (hos : Accounts os [⟨h, d, s.browseRequest k⟩] []) :
      Transition faults s rs (.request (.browse k c) (.started h d))
        ⟨{ s with registry.browses := s.registry.browses.insert s.registry.browses.nextId
                    { id := s.registry.browses.nextId, handle := h, constraints := k, client := c }
                  mux := (s.mux.add h d).2 },
          rs, os, .done (.ok (some s.registry.browses.nextId))⟩
  | browseFailed {q id flags interfaceIndex code name regtype domain os}
      (hq : s.registry.browses.get? id = some q) (hcode : code ≠ ErrorCode.noError)
      (hos : Accounts os [] []) :
      Transition faults s rs
        (.reply (.browse id) (.browse flags interfaceIndex code name regtype domain))
        ⟨s, rs, os, .tell q.client (.failed .browse id code (ErrorCode.message code) true)
          (.ok none)⟩
  | appeared {q id flags interfaceIndex name regtype domain transport os}
      (hq : s.registry.browses.get? id = some q) (hflags : Reply.announces flags = true)
      (hname : name ≠ s.uuid) (hnew : q.discovered.lookup name = none)
      (ht : RegType.transport? regtype = some transport) (hos : Accounts os [] []) :
      Transition faults s rs
        (.reply (.browse id) (.browse flags interfaceIndex ErrorCode.noError name
          (some regtype) domain))
        ⟨{ s with registry.browses := s.registry.browses.modify q.id (·.track name rs.nextId) },
          rs.add { Record.new name transport interfaceIndex q.constraints.subtype
            (domain.getD "") with
            regtype, state := .discovered },
          os, .tell q.client (.added q.id rs.nextId) (.ok none)⟩
  | vanished {q id flags interfaceIndex name regtype domain record os}
      (hq : s.registry.browses.get? id = some q) (hflags : Reply.announces flags = false)
      (hrecord : q.discovered.lookup name = some record) (hos : Accounts os [] []) :
      Transition faults s rs
        (.reply (.browse id) (.browse flags interfaceIndex ErrorCode.noError name regtype domain))
        ⟨{ s with registry.browses := s.registry.browses.modify q.id (·.drop name) }, rs, os,
          .tell q.client (.removed q.id record) (.ok none)⟩
  | cancelled {q id answer os o} (hq : s.registry.browses.get? id = some q)
      (hos : Accounts os [] [q.handle]) (ho : faults.escaping q.handle = none → o = .ok none) :
      Transition faults s rs (.request (.cancel id) answer)
        ⟨{ s with registry.browses := s.registry.browses.erase id,
                  mux := (s.mux.remove q.handle).2 },
          rs, os, .done o⟩
  | resolving {q target c h d os} (hopen : s.closed = false) (hq : s.tracker? rs target = some q)
      (hos : Accounts os [⟨h, d, s.resolveRequest rs target⟩] []) :
      Transition faults s rs (.request (.resolve target c) (.started h d))
        ⟨{ s with registry.resolves := s.registry.resolves.insert s.registry.resolves.nextId
                    ⟨s.registry.resolves.nextId, h, target, q.id, c⟩
                  mux := (s.mux.add h d).2 },
          rs, os, .done (.ok none)⟩
  | answered {q id flags interfaceIndex code fullname hostTarget port txt os}
      (hq : s.registry.resolves.get? id = some q) (hfault : faults.escaping q.handle = none)
      (hos : Accounts os [] [q.handle]) :
      Transition faults s rs
        (.reply (.resolve id) (.resolve flags interfaceIndex code fullname hostTarget port txt))
        ⟨{ s with registry.resolves := s.registry.resolves.erase id,
                  mux := (s.mux.remove q.handle).2 },
          (settlement rs q code fullname hostTarget port txt).1, os,
          .tell q.client (settlement rs q code fullname hostTarget port txt).2 (.ok none)⟩
  | answeredFaulty {q id r os f} (hq : s.registry.resolves.get? id = some q)
      (hfault : faults.escaping q.handle = some f) (hos : Accounts os [] [q.handle]) :
      Transition faults s rs (.reply (.resolve id) r)
        ⟨{ s with registry.resolves := s.registry.resolves.erase id,
                  mux := (s.mux.remove q.handle).2 },
          rs, os, .done (.error f)⟩
  | closed {answer os mux} (hopen : s.closed = false) (hwatched : mux.watched = [])
      (hmux : mux.closed = true) (hos : Accounts os [] (s.closing rs)) :
      Transition faults s rs (.request .close answer)
        ⟨{ s with closed := true, registry := {}, mux
                  registration := if (s.ownRecord rs).state.isActive then none
                  else s.registration },
          if (s.ownRecord rs).state.isActive then
            rs.modify s.own fun r => { r with state := .created }
          else rs,
          os, .done (.ok none)⟩

namespace Session
open ServiceDiscovery.Text (Octets)
variable (faults : CloseFaults) {s : Session} (rs : Records)

theorem transition_announce (hs : s.Sound) (a : Advertisement) (c : Client) (answer : StartAnswer) :
    Transition faults s rs (.request (.announce a c) answer) (s.announce rs a c answer) := by
  by_cases hclosed : s.closed = true
  · simp only [announce, hclosed, if_true]
    exact .idle (by trivial) .nil
  have hopen : s.closed = false := by simpa using hclosed
  cases hpacked : s.packed rs a with
  | error why =>
    rw [announce_rejected hopen hpacked]
    exact .refused rfl (.notice _)
  | ok txt =>
    cases answer with
    | raised f =>
      simp only [announce, hclosed, hpacked]
      exact .idle (by trivial) ⟨rfl, rfl, rfl, rfl⟩
    | refused r =>
      obtain ⟨os, hturn, hos⟩ := announce_refused (c := c) hopen hpacked r
      rw [hturn]
      exact .refused rfl hos
    | started h d =>
      cases ht : Transport.ofCode? a.transportCode with
      | none =>
        simp only [announce, hclosed, hpacked, announceStarted, ht]
        exact .orphaned ht (.started _ h d)
      | some transport =>
        have hidle : (s.ownRecord rs).state.isActive = false := by
          by_contra hactive
          rw [Bool.not_eq_false] at hactive
          simp [packed, hactive] at hpacked
        obtain ⟨os, hturn, hos⟩ := announce_started hs hopen hpacked ht c h d
        rw [hturn]
        exact .announced hopen hidle hpacked ht hos

theorem transition_browse (hs : s.Sound) (k : Constraints) (c : Client) (answer : StartAnswer) :
    Transition faults s rs (.request (.browse k c) answer) (s.browse rs k c answer) := by
  by_cases hclosed : s.closed = true
  · simp only [browse, hclosed, if_true]
    exact .idle (by trivial) .nil
  have hopen : s.closed = false := by simpa using hclosed
  cases answer with
  | raised f =>
    simp only [browse, hclosed]
    exact .idle (by trivial) ⟨rfl, rfl, rfl, rfl⟩
  | refused r =>
    simp only [browse, hclosed]
    exact .refused rfl ⟨rfl, rfl, rfl, rfl⟩
  | started h d =>
    obtain ⟨os, hturn, hos⟩ := browse_started rs hs hopen k c h d
    rw [hturn]
    exact .browsing hopen hos

theorem transition_resolve (hs : s.Sound) (target : RecordId) (c : Client) (answer : StartAnswer) :
    Transition faults s rs (.request (.resolve target c) answer)
      (s.resolve rs target c answer) := by
  by_cases hclosed : s.closed = true
  · simp only [resolve, hclosed, if_true]
    exact .idle (by trivial) .nil
  have hopen : s.closed = false := by simpa using hclosed
  cases hq : s.tracker? rs target with
  | none =>
    simp only [resolve, hclosed, hq]
    exact .refused rfl (.notice _)
  | some q =>
    cases answer with
    | raised f =>
      simp only [resolve, hclosed, hq]
      exact .idle (by trivial) ⟨rfl, rfl, rfl, rfl⟩
    | refused r =>
      simp only [resolve, hclosed, hq]
      exact .refused rfl ⟨rfl, rfl, rfl, rfl⟩
    | started h d =>
      obtain ⟨os, hturn, hos⟩ := resolve_started hs hopen hq c h d
      rw [hturn]
      exact .resolving hopen hq hos

theorem transition_cancel (id : Int) (answer : StartAnswer) :
    Transition faults s rs (.request (.cancel id) answer) (s.cancel faults rs id) := by
  cases hq : s.registry.browses.get? id with
  | none =>
    simp only [cancel, Registry.popBrowse, hq]
    exact .idle (by trivial) .nil
  | some q =>
    obtain ⟨os, o, hturn, hos, ho⟩ := cancel_live faults rs hq
    rw [hturn]
    exact .cancelled hq hos ho

theorem close_of_closed (hclosed : s.closed = true) : s.close faults rs = s.idle rs [] := by
  rw [close, if_pos hclosed, idle]

theorem close_of_open (hopen : s.closed = false) :
    ∃ os mux, s.close faults rs =
        ⟨{ s with closed := true, registry := {}, mux
                  registration := if (s.ownRecord rs).state.isActive then none
                  else s.registration },
          if (s.ownRecord rs).state.isActive then
            rs.modify s.own fun r => { r with state := .created }
          else rs,
          os, .done (.ok none)⟩ ∧
      mux.watched = [] ∧ mux.closed = true ∧ Accounts os [] (s.closing rs) := by
  obtain ⟨os, mux, hr, hos⟩ := releaseAllQuietly_eq faults { s with closed := true, registry := {} }
    (s.registry.resolves.values.map (·.handle) ++ s.registry.browses.values.map (·.handle))
  obtain ⟨os', mux', hw, hos'⟩ := withdraw_eq faults
    { s with closed := true, registry := {}, mux } rs
  have hmuxFailed : Accounts
      (if faults.selector.isSome then [Output.notice .multiplexerCloseFailed] else []) [] [] := by
    split
    · exact .notice _
    · exact .nil
  have hletGo : Accounts (if s.ownsProvider then
      .closeProvider :: if faults.provider.isSome then [Output.notice .providerCloseFailed] else []
      else []) [] [] := by
    split
    · split <;> exact ⟨rfl, rfl, rfl, rfl⟩
    · exact .nil
  have hos' : Accounts os' [] (if (s.ownRecord rs).state.isActive then
      s.registration.toList.map (·.handle) else []) := hos'.accounts
  rw [close, if_neg (by simp [hopen])]
  simp only [hr, hw]
  exact ⟨_, _, rfl, rfl, rfl,
    by simpa [closing] using ((hos.accounts.append hos').append hmuxFailed).append hletGo⟩

theorem transition_close (answer : StartAnswer) :
    Transition faults s rs (.request .close answer) (s.close faults rs) := by
  cases hclosed : s.closed with
  | true =>
    rw [close_of_closed faults rs hclosed]
    exact .idle (by trivial) .nil
  | false =>
    obtain ⟨os, mux, hturn, hwatched, hmux, hos⟩ := close_of_open faults rs hclosed
    rw [hturn]
    exact .closed hclosed hwatched hmux hos

theorem transition_registerReply (flags code : Int) (name regtype domain : Option String) :
    Transition faults s rs (.reply .register (.register flags code name regtype domain))
      (s.onRegisterReply faults rs code name regtype domain) := by
  cases hg : s.registration with
  | none =>
    simp only [onRegisterReply, hg]
    exact .idle (by simp [Unmoved, hg]) .nil
  | some g =>
    by_cases hcode : code = ErrorCode.noError
    · subst hcode
      by_cases hstate : (s.ownRecord rs).state = .registered
      · rw [onRegisterReply_reconfirmed hg hstate]
        exact .idle (by exact fun _ _ => hstate) (.notice _)
      · obtain ⟨os, hturn, hos⟩ := onRegisterReply_confirmed faults hg hstate name regtype domain
        rw [hturn]
        exact .confirmed hg hstate hos
    · cases hf : faults.escaping g.handle with
      | none =>
        obtain ⟨os, hturn, hos⟩ := onRegisterReply_lost rs hg hcode hf name regtype domain
        rw [hturn]
        exact .lost hg hcode hf hos
      | some f =>
        obtain ⟨os, hturn, hos⟩ := onRegisterReply_faulty rs hg hcode hf name regtype domain
        rw [hturn]
        exact .lostFaulty hg hf hos

theorem transition_browseReply (id flags interfaceIndex code : Int) (name : String)
    (regtype domain : Option String) :
    Transition faults s rs
      (.reply (.browse id) (.browse flags interfaceIndex code name regtype domain))
      (s.onBrowseReply rs id flags interfaceIndex code name regtype domain) := by
  unfold onBrowseReply
  cases hq : s.registry.browses.get? id with
  | none => exact .idle (by trivial) (.notice _)
  | some q =>
    simp only
    split
    · rename_i hcode
      exact .browseFailed hq hcode .nil
    rename_i hcode
    obtain rfl : code = ErrorCode.noError := not_not.mp hcode
    split
    · rename_i hflags
      unfold appear
      split
      · exact .idle (by trivial) .nil
      rename_i hname
      split
      · exact .idle (by trivial) (.notice _)
      rename_i hnew
      split
      · exact .idle (by trivial) (.notice _)
      rename_i type transport hbind
      obtain ⟨t, rfl, hmap⟩ := Option.bind_eq_some_iff.mp hbind
      obtain ⟨_, ht, hpair⟩ := Option.map_eq_some_iff.mp hmap
      rw [Prod.mk.injEq] at hpair
      obtain ⟨rfl, rfl⟩ := hpair
      exact .appeared hq hflags hname (Option.not_isSome_iff_eq_none.mp hnew) ht (.notice _)
    · rename_i hflags
      unfold vanish
      cases hrecord : q.discovered.lookup name with
      | none => exact .idle (by trivial) .nil
      | some record => exact .vanished hq (by simpa using hflags) hrecord (.notice _)

theorem transition_resolveReply (id flags interfaceIndex code : Int)
    (fullname hostTarget : Option String) (port : Int) (txt : Octets) :
    Transition faults s rs
      (.reply (.resolve id) (.resolve flags interfaceIndex code fullname hostTarget port txt))
      (s.onResolveReply faults rs id code fullname hostTarget port txt) := by
  cases hq : s.registry.resolves.get? id with
  | none =>
    simp only [onResolveReply, Registry.popResolve, hq]
    exact .idle (by exact hq) .nil
  | some q =>
    cases hf : faults.escaping q.handle with
    | none =>
      obtain ⟨os, hturn, hos⟩ :=
        onResolveReply_answered rs hq hf code fullname hostTarget port txt
      rw [hturn]
      exact .answered hq hf hos
    | some f =>
      obtain ⟨os, hr, hos⟩ := release_eq faults
        { s with registry.resolves := s.registry.resolves.erase id } q.handle
      simp only [onResolveReply, Registry.popResolve, hq, hr, hf]
      exact .answeredFaulty hq hf hos.accounts

theorem transition_reply (address : ReplyTo) (r : Reply) :
    Transition faults s rs (.reply address r) (s.onReply faults rs address r) := by
  cases address with
  | register =>
    cases r with
    | register => exact transition_registerReply _ _ _ _ _ _ _
    | _ => exact .idle (by trivial) .nil
  | browse id =>
    cases r with
    | browse => exact transition_browseReply _ _ _ _ _ _ _ _ _
    | _ => exact .idle (by trivial) .nil
  | resolve id =>
    cases r with
    | resolve => exact transition_resolveReply _ _ _ _ _ _ _ _ _ _
    | _ => exact .idle (by trivial) .nil

end Session

namespace Transition
variable {faults : CloseFaults} {s : Session} {rs : Records} {m : Move} {t : Turn}

/-- A turn begins no pump, and the client that it tells is told only afterwards. -/
theorem accounts (he : Transition faults s rs m t) :
    Accounts t.outputs (openings t.outputs) (releases t.outputs) := by
  have hall : ∃ opened closed, Accounts t.outputs opened closed := by
    cases he <;> exact ⟨_, _, ‹Accounts _ _ _›⟩
  obtain ⟨_, _, hos⟩ := hall
  exact ⟨rfl, rfl, hos.pumps, hos.invocations⟩

theorem opened (he : Transition faults s rs m t) {o : Opening} (ho : o ∈ openings t.outputs) :
    ∃ r, m = .request r (.started o.handle o.descriptor) := by
  cases he with
  | announced _ _ _ _ hos | orphaned _ hos | browsing _ hos | resolving _ _ hos =>
    rw [hos.openings] at ho
    obtain rfl := List.mem_singleton.mp ho
    exact ⟨_, rfl⟩
  | idle _ hos | refused _ hos | confirmed _ _ hos | lost _ _ _ hos | lostFaulty _ _ hos
  | browseFailed _ _ hos | appeared _ _ _ _ _ hos | vanished _ _ _ hos | cancelled _ hos
  | answered _ _ hos | answeredFaulty _ _ hos | closed _ _ _ hos =>
    rw [hos.openings] at ho
    cases ho

/-- A closed session stays closed. -/
theorem closed_of_closed (he : Transition faults s rs m t) (hclosed : s.closed = true) :
    t.session.closed = true := by
  cases he with
  | closed => rfl
  | _ => exact hclosed

theorem invocation?_of_opening (he : Transition faults s rs m t) {o : Opening}
    (ho : o ∈ openings t.outputs) : t.next.invocation? = none := by
  obtain ⟨r, rfl⟩ := he.opened ho
  cases he with
  | refused _ hos =>
    rw [hos.openings] at ho
    cases ho
  | _ => rfl

/-- A turn keeps the tables in order and the multiplexer in step. -/
theorem sound (he : Transition faults s rs m t) (hs : s.Sound) : t.session.Sound := by
  have hadd (h : Handle) (d : Int) (hopen : s.closed = false) :
      (s.mux.add h d).2.closed = s.closed :=
    ((hs.inStep hopen).add h d).2.2.1.trans hs.muxClosed
  have hremove (h : Handle) : (s.mux.remove h).2.closed = s.closed :=
    (s.mux.closed_remove h).trans hs.muxClosed
  cases he with
  | idle | refused | orphaned | confirmed | browseFailed =>
    exact ⟨hs.inStep, hs.muxClosed, hs.browses, hs.resolves⟩
  | announced hopen =>
    exact ⟨fun ho => ((hs.inStep ho).add _ _).2.1, hadd _ _ hopen, hs.browses, hs.resolves⟩
  | browsing hopen =>
    exact ⟨fun ho => ((hs.inStep ho).add _ _).2.1, hadd _ _ hopen, hs.browses.insert rfl,
      hs.resolves⟩
  | resolving hopen =>
    exact ⟨fun ho => ((hs.inStep ho).add _ _).2.1, hadd _ _ hopen, hs.browses,
      hs.resolves.insert rfl⟩
  | lost | lostFaulty =>
    exact ⟨fun ho => (hs.inStep ho).remove _, hremove _, hs.browses, hs.resolves⟩
  | cancelled =>
    exact ⟨fun ho => (hs.inStep ho).remove _, hremove _, hs.browses.erase _, hs.resolves⟩
  | answered | answeredFaulty =>
    exact ⟨fun ho => (hs.inStep ho).remove _, hremove _, hs.browses, hs.resolves.erase _⟩
  | appeared =>
    exact ⟨hs.inStep, hs.muxClosed, hs.browses.modify fun q => q.id_track _ _, hs.resolves⟩
  | vanished =>
    exact ⟨hs.inStep, hs.muxClosed, hs.browses.modify fun q => q.id_drop _, hs.resolves⟩
  | closed hopen hwatched hmux =>
    exact ⟨(fun ho => nomatch ho), hmux, RequestTable.numbered_empty, RequestTable.numbered_empty⟩

end Transition
end ServiceDiscovery
