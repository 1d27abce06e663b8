import ServiceDiscovery.Proofs.Account
import ServiceDiscovery.Proofs.Requests
import ServiceDiscovery.Proofs.WatchList
import ServiceDiscovery.Session.Close
import ServiceDiscovery.Session.Reply
import ServiceDiscovery.Session.Start

/-!
What each operation of a session comes to: the turn it takes when it is refused, started, answered
or ended, with the handles that the turn opens and closes.
-/
namespace ServiceDiscovery

def Next.invocation? : Next → Option Invocation
  | .notify i _ => some i
  | .done _ => none

def Next.outcome : Next → Outcome
  | .notify _ o => o
  | .done o => o

@[simp] theorem Next.outcome_tell (c : Client) (what : Notification) (o : Outcome) :
    (Next.tell c what o).outcome = o := by
  unfold Next.tell
  split <;> rfl

@[simp] theorem Next.invocation?_tell (c : Client) (what : Notification) (o : Outcome) :
    (Next.tell c what o).invocation? = if c.wants what then some ⟨c, what⟩ else none := by
  unfold Next.tell
  split <;> rfl

theorem Next.eq_of_invocation?_tell {c : Client} {what : Notification} {o : Outcome}
    {i : Invocation} (h : (Next.tell c what o).invocation? = some i) : i = ⟨c, what⟩ := by
  rw [Next.invocation?_tell] at h
  split at h
  · exact (Option.some.inj h).symm
  · cases h

def CloseFaults.escaping (faults : CloseFaults) (h : Handle) : Option Fault :=
  match faults.handle h with
  | some (.system _) => none
  | f => f

namespace Txt
open ServiceDiscovery.Text (Octets)

def prefixOf (txt : Octets) : String := ((decode txt).toOption.bind (·.namePrefix)).getD ""

def certificateOf (txt : Octets) : Octets := ((decode txt).toOption.bind (·.certificate)).getD []

end Txt

namespace Session
open ServiceDiscovery.Text (Octets)
variable {faults : CloseFaults} {s : Session} {rs : Records} {h : Handle} {d : Int}

structure Sound (s : Session) : Prop where
  inStep : s.closed = false → s.mux.InStep
  muxClosed : s.mux.closed = s.closed
  browses : s.registry.browses.Numbered BrowseRequest.id
  resolves : s.registry.resolves.Numbered ResolveRequest.id

theorem watch_eq (hm : s.mux.InStep) (h : Handle) (d : Int) :
    ∃ os, s.watch h d = (.ok (), { s with mux := (s.mux.add h d).2 }, os) ∧ Accounts os [] [] := by
  obtain ⟨b, hb⟩ := (hm.add h d).1
  have hadd : s.mux.add h d = (.ok b, (s.mux.add h d).2) := Prod.ext hb rfl
  cases b with
  | false => exact ⟨[], by rw [watch, hadd], .nil⟩
  | true => exact ⟨_, by rw [watch, hadd], .notice _⟩

theorem unwatch_eq (s : Session) (h : Handle) :
    ∃ os, s.unwatch h = ({ s with mux := (s.mux.remove h).2 }, os) ∧ Closes os [] := by
  unfold unwatch
  split
  · rename_i mux hr
    exact ⟨[], by rw [hr], .nil⟩
  · rename_i d mux hr
    exact ⟨_, by rw [hr], .notice _⟩

theorem release_eq (faults : CloseFaults) (s : Session) (h : Handle) :
    ∃ os, s.release faults h = ({ s with mux := (s.mux.remove h).2 }, os, faults.escaping h) ∧
      Closes os [h] := by
  obtain ⟨os, hu, hos⟩ := s.unwatch_eq h
  have hclosed := hos.append (.release h)
  unfold release CloseFaults.escaping
  rw [hu]
  cases faults.handle h with
  | none => exact ⟨_, rfl, hclosed⟩
  | some f =>
    cases f with
    | system e => exact ⟨_, rfl, by simpa using hclosed.add_notice .releaseFailed⟩
    | _ => exact ⟨_, rfl, hclosed⟩

theorem releaseAllQuietly_eq (faults : CloseFaults) (s : Session) (hs : List Handle) :
    ∃ os mux, s.releaseAllQuietly faults hs = ({ s with mux }, os) ∧ Closes os hs := by
  induction hs generalizing s with
  | nil => exact ⟨[], s.mux, rfl, .nil⟩
  | cons h hs ih =>
    obtain ⟨first, hr, hfirst⟩ := s.release_eq faults h
    have hq : ∃ os, s.releaseQuietly faults h = ({ s with mux := (s.mux.remove h).2 }, os) ∧
        Closes os [h] := by
      unfold releaseQuietly
      rw [hr]
      cases faults.escaping h with
      | none => exact ⟨_, rfl, hfirst⟩
      | some f => exact ⟨_, rfl, hfirst.add_notice _⟩
    obtain ⟨quiet, hquiet, hacc⟩ := hq
    obtain ⟨later, mux, hl, hlater⟩ := ih { s with mux := (s.mux.remove h).2 }
    refine ⟨quiet ++ later, mux, ?_, hacc.append hlater⟩
    rw [releaseAllQuietly, hquiet]
    simp only [hl]

def confirmedIn (domain : Option String) (r : Record) : Record :=
  { r with domain := if domain.getD "" = "" then r.domain else domain.getD "",
           state := .registered }

def settlement (rs : Records) (q : ResolveRequest) (code : Int)
    (fullname hostTarget : Option String) (port : Int) (txt : Octets) : Records × Notification :=
  if code ≠ ErrorCode.noError then
    (rs, .failed .resolve q.browseId code (ErrorCode.message code) true)
  else if Txt.prefixOf txt = "" then
    (rs, .failed .resolve q.browseId ErrorCode.localError ErrorCode.prefixNotFound false)
  else
    (rs.modify q.target (located fullname hostTarget port (Txt.prefixOf txt)
      (Txt.certificateOf txt)), .resolved q.browseId q.target)

/-- An answer tells of a failure and changes nothing, or it gives the target what it says. -/
theorem settlement_cases (rs : Records) (q : ResolveRequest) (code : Int)
    (fullname hostTarget : Option String) (port : Int) (txt : Octets) :
    (∃ code' message transient, settlement rs q code fullname hostTarget port txt =
      (rs, .failed .resolve q.browseId code' message transient)) ∨
    settlement rs q code fullname hostTarget port txt =
      (rs.modify q.target (located fullname hostTarget port (Txt.prefixOf txt)
        (Txt.certificateOf txt)), .resolved q.browseId q.target) := by
  unfold settlement
  split
  · exact .inl ⟨_, _, _, rfl⟩
  · split
    · exact .inl ⟨_, _, _, rfl⟩
    · exact .inr rfl

theorem announce_rejected {a : Advertisement} {c : Client} {why : String} (hopen : s.closed = false)
    (hpacked : s.packed rs a = .error why) (answer : StartAnswer) :
    s.announce rs a c answer = ⟨s, rs, [.notice (.announceRejected s.uuid why)],
      .tell c (.failed .register (-1) ErrorCode.localError why false) (.ok none)⟩ := by
  simp [announce, hopen, hpacked]

theorem announce_refused {a : Advertisement} {c : Client} {txt : Octets} (hopen : s.closed = false)
    (hpacked : s.packed rs a = .ok txt) (r : Refusal) :
    ∃ os, s.announce rs a c (.refused r) = ⟨s, rs, os,
        .tell c (.failed .register (-1) r.code (ErrorCode.message r.code) true) (.ok none)⟩ ∧
      Accounts os [] [] := by
  rw [announce, if_neg (by simp [hopen])]
  simp only [hpacked]
  exact ⟨_, rfl, rfl, rfl, rfl, rfl⟩

theorem announce_started {a : Advertisement} {txt : Octets} {transport : Transport} (hs : s.Sound)
    (hopen : s.closed = false) (hpacked : s.packed rs a = .ok txt)
    (ht : Transport.ofCode? a.transportCode = some transport) (c : Client) (h : Handle) (d : Int) :
    ∃ os, s.announce rs a c (.started h d) =
        ⟨{ s with registration := some ⟨h, c, false⟩, mux := (s.mux.add h d).2 },
          rs.modify s.own (advertised a transport), os, .done (.ok none)⟩ ∧
      Accounts os [⟨h, d, s.registerRequest a txt⟩] [] := by
  obtain ⟨os, hw, hos⟩ :=
    watch_eq (s := { s with registration := some ⟨h, c, false⟩ }) (hs.inStep hopen) h d
  rw [announce, if_neg (by simp [hopen])]
  simp only [hpacked, announceStarted, ht, hw]
  refine ⟨_, rfl, ?_⟩
  simpa using ((Accounts.started (s.registerRequest a txt) h d).append hos).add_notice
    (.registering s.uuid _ a.port)

theorem browse_started (rs : Records) (hs : s.Sound) (hopen : s.closed = false) (k : Constraints)
    (c : Client) (h : Handle) (d : Int) :
    ∃ os, s.browse rs k c (.started h d) =
        ⟨{ s with registry.browses := s.registry.browses.insert s.registry.browses.nextId
                    { id := s.registry.browses.nextId, handle := h, constraints := k, client := c }
                  mux := (s.mux.add h d).2 },
          rs, os, .done (.ok (some s.registry.browses.nextId))⟩ ∧
      Accounts os [⟨h, d, s.browseRequest k⟩] [] := by
  obtain ⟨os, hw, hos⟩ := watch_eq (s := { s with
      registry.browses := s.registry.browses.insert s.registry.browses.nextId
        { id := s.registry.browses.nextId, handle := h, constraints := k, client := c } })
    (hs.inStep hopen) h d
  rw [browse, if_neg (by simp [hopen])]
  simp only [browseStarted, Registry.addBrowse, hs.browses.get?_nextId, hw]
  refine ⟨_, rfl, ?_⟩
  simpa using ((Accounts.started (s.browseRequest k) h d).append hos).add_notice
    (.browseStarted s.uuid _ _)

theorem resolve_started (hs : s.Sound) (hopen : s.closed = false) {target : RecordId}
    {q : BrowseRequest} (hq : s.tracker? rs target = some q) (c : Client) (h : Handle) (d : Int) :
    ∃ os, s.resolve rs target c (.started h d) =
        ⟨{ s with registry.resolves := s.registry.resolves.insert s.registry.resolves.nextId
                    ⟨s.registry.resolves.nextId, h, target, q.id, c⟩
                  mux := (s.mux.add h d).2 },
          rs, os, .done (.ok none)⟩ ∧
      Accounts os [⟨h, d, s.resolveRequest rs target⟩] [] := by
  obtain ⟨os, hw, hos⟩ := watch_eq (s := { s with
      registry.resolves := s.registry.resolves.insert s.registry.resolves.nextId
        ⟨s.registry.resolves.nextId, h, target, q.id, c⟩ })
    (hs.inStep hopen) h d
  rw [resolve, if_neg (by simp [hopen])]
  simp only [hq, resolveStarted, Registry.addResolve, hs.resolves.get?_nextId, hw]
  exact ⟨_, rfl, by simpa using (Accounts.started (s.resolveRequest rs target) h d).append hos⟩

theorem onRegisterReply_confirmed {g : Registration} (faults : CloseFaults)
    (hg : s.registration = some g) (hstate : (s.ownRecord rs).state ≠ .registered)
    (name regtype domain : Option String) :
    ∃ os, s.onRegisterReply faults rs ErrorCode.noError name regtype domain =
        ⟨{ s with registration := some { g with settled := true } },
          rs.modify s.own (confirmedIn domain), os, .tell g.client .registered (.ok none)⟩ ∧
      Accounts os [] [] := by
  simp only [onRegisterReply, hg, if_true, confirm, hstate, if_false]
  refine ⟨_, rfl, Accounts.add_notice ?_ _⟩
  split
  · split
    · exact .nil
    · exact .notice _
  · exact .nil

theorem onRegisterReply_reconfirmed {g : Registration} (hg : s.registration = some g)
    (hstate : (s.ownRecord rs).state = .registered) (name regtype domain : Option String) :
    s.onRegisterReply faults rs ErrorCode.noError name regtype domain =
      s.idle rs [.notice (.reconfirmed s.uuid)] := by
  simp only [onRegisterReply, hg, if_true, confirm, hstate]

theorem onRegisterReply_lost {g : Registration} {code : Int} (rs : Records)
    (hg : s.registration = some g) (hcode : code ≠ ErrorCode.noError)
    (hfault : faults.escaping g.handle = none) (name regtype domain : Option String) :
    ∃ os, s.onRegisterReply faults rs code name regtype domain =
        ⟨{ s with registration := none, mux := (s.mux.remove g.handle).2 },
          rs.modify s.own fun r => { r with state := .created }, os,
          if g.settled then .done (.ok none)
          else .tell g.client (.failed .register (-1) code (ErrorCode.message code) true)
            (.ok none)⟩ ∧
      Accounts os [] [g.handle] := by
  obtain ⟨os, hr, hos⟩ := release_eq faults { s with registration := none } g.handle
  simp only [onRegisterReply, hg, hcode, if_false, loseRegistration, hr, hfault]
  by_cases hsettled : g.settled = true
  · simp only [hsettled, if_true]
    exact ⟨_, rfl, (hos.add_notice _).accounts⟩
  · simp only [hsettled]
    exact ⟨_, rfl, (hos.add_notice _).accounts⟩

theorem onRegisterReply_faulty {g : Registration} {code : Int} {f : Fault} (rs : Records)
    (hg : s.registration = some g) (hcode : code ≠ ErrorCode.noError)
    (hfault : faults.escaping g.handle = some f) (name regtype domain : Option String) :
    ∃ os, s.onRegisterReply faults rs code name regtype domain =
        ⟨{ s with registration := none, mux := (s.mux.remove g.handle).2 }, rs, os,
          .done (.error f)⟩ ∧
      Accounts os [] [g.handle] := by
  obtain ⟨os, hr, hos⟩ := release_eq faults { s with registration := none } g.handle
  simp only [onRegisterReply, hg, hcode, if_false, loseRegistration, hr, hfault]
  exact ⟨os, rfl, hos.accounts⟩

theorem settleResolve_eq (s : Session) (rs : Records) (q : ResolveRequest)
    (fullname hostTarget : Option String) (port : Int) (txt : Octets) (before : List Output) :
    ∃ os, s.settleResolve rs q fullname hostTarget port txt before =
        ⟨s, (settlement rs q ErrorCode.noError fullname hostTarget port txt).1, before ++ os,
          .tell q.client (settlement rs q ErrorCode.noError fullname hostTarget port txt).2
            (.ok none)⟩ ∧
      Closes os [] := by
  cases hd : Txt.decode txt with
  | error e =>
    have hp : Txt.prefixOf txt = "" := by simp [Txt.prefixOf, hd, Except.toOption]
    refine ⟨[.notice (.malformedTxt s.uuid fullname e.message)], ?_, .notice _⟩
    simp [settleResolve, settlement, hd, hp]
  | ok content =>
    have hp : Txt.prefixOf txt = content.namePrefix.getD "" := by
      simp [Txt.prefixOf, hd, Except.toOption]
    have hc : Txt.certificateOf txt = content.certificate.getD [] := by
      simp [Txt.certificateOf, hd, Except.toOption]
    by_cases hempty : content.namePrefix.getD "" = ""
    · exact ⟨[], by simp [settleResolve, settlement, hd, hp, hempty], .nil⟩
    · let r := (settlement rs q ErrorCode.noError fullname hostTarget port txt).1.get q.target
      refine ⟨[.notice (.resolved s.uuid r.fullname r.hostname r.port r.namePrefix)], ?_, .notice _⟩
      simp only [settleResolve, r, settlement, hd, hp, hc, hempty, ne_eq,
        not_true_eq_false, if_false, List.append_nil]

theorem onResolveReply_answered {id : Int} {q : ResolveRequest} (rs : Records)
    (hq : s.registry.resolves.get? id = some q) (hfault : faults.escaping q.handle = none)
    (code : Int) (fullname hostTarget : Option String) (port : Int) (txt : Octets) :
    ∃ os, s.onResolveReply faults rs id code fullname hostTarget port txt =
        ⟨{ s with registry.resolves := s.registry.resolves.erase id,
                  mux := (s.mux.remove q.handle).2 },
          (settlement rs q code fullname hostTarget port txt).1, os,
          .tell q.client (settlement rs q code fullname hostTarget port txt).2 (.ok none)⟩ ∧
      Accounts os [] [q.handle] := by
  obtain ⟨os, hr, hos⟩ := release_eq faults
    { s with registry.resolves := s.registry.resolves.erase id } q.handle
  simp only [onResolveReply, Registry.popResolve, hq, hr, hfault]
  by_cases hcode : code = ErrorCode.noError
  · subst hcode
    obtain ⟨os', hsettle, hos'⟩ := settleResolve_eq
      { s with registry.resolves := s.registry.resolves.erase id, mux := (s.mux.remove q.handle).2 }
      rs q fullname hostTarget port txt os
    rw [if_neg (not_not.mpr rfl), hsettle]
    exact ⟨_, rfl, by simpa using (hos.append hos').accounts⟩
  · rw [if_pos hcode]
    simp only [settlement, if_pos hcode]
    exact ⟨os, rfl, hos.accounts⟩

theorem cancel_live {id : Int} {q : BrowseRequest} (faults : CloseFaults) (rs : Records)
    (hq : s.registry.browses.get? id = some q) :
    ∃ os o, s.cancel faults rs id =
        ⟨{ s with registry.browses := s.registry.browses.erase id,
                  mux := (s.mux.remove q.handle).2 },
          rs, os, .done o⟩ ∧
      Accounts os [] [q.handle] ∧ (faults.escaping q.handle = none → o = .ok none) := by
  obtain ⟨os, hr, hos⟩ := release_eq faults
    { s with registry.browses := s.registry.browses.erase id } q.handle
  simp only [cancel, Registry.popBrowse, hq, hr]
  cases hf : faults.escaping q.handle with
  | none => exact ⟨_, _, rfl, (hos.add_notice _).accounts, fun _ => rfl⟩
  | some f => exact ⟨_, _, rfl, hos.accounts, fun hnone => nomatch hnone⟩

theorem withdraw_eq (faults : CloseFaults) (s : Session) (rs : Records) :
    ∃ os mux, s.withdraw faults rs =
        ({ s with mux, registration := if (s.ownRecord rs).state.isActive then
                    none else s.registration },
          if (s.ownRecord rs).state.isActive then
            rs.modify s.own fun r => { r with state := .created }
          else rs, os) ∧
      Closes os
        (if (s.ownRecord rs).state.isActive then s.registration.toList.map (·.handle) else []) := by
  unfold withdraw
  split
  · obtain ⟨os, mux, hr, hos⟩ := releaseAllQuietly_eq faults { s with registration := none }
      (s.registration.toList.map Registration.handle)
    simp only [hr]
    exact ⟨_, mux, rfl, hos.add_notice _⟩
  · exact ⟨[], s.mux, rfl, .nil⟩

end Session

def Turn.TellsWell (t : Turn) : Prop := ∀ i o, t.next = .notify i o → ∃ x, o = .ok x

namespace Turn
variable {s : Session} {rs : Records} {os : List Output}

theorem tellsWell_done (o : Outcome) : (⟨s, rs, os, .done o⟩ : Turn).TellsWell :=
  fun _ _ h => nomatch h

theorem tellsWell_of_ok {t : Turn} {x : Option Int} (h : t.next.outcome = .ok x) : t.TellsWell := by
  intro i o hnext
  rw [hnext] at h
  exact ⟨x, h⟩

end Turn

namespace Session
variable (s : Session) (rs : Records)

theorem tellsWell_announce (a : Advertisement) (c : Client) (answer : StartAnswer) :
    (s.announce rs a c answer).TellsWell := by
  unfold announce
  split
  · exact Turn.tellsWell_done _
  split
  · exact Turn.tellsWell_of_ok (Next.outcome_tell _ _ _)
  cases answer with
  | raised f => exact Turn.tellsWell_done _
  | refused r => exact Turn.tellsWell_of_ok (Next.outcome_tell _ _ _)
  | started h d =>
    unfold announceStarted
    dsimp only
    split
    · exact Turn.tellsWell_done _
    · split <;> exact Turn.tellsWell_done _

theorem tellsWell_browse (k : Constraints) (c : Client) (answer : StartAnswer) :
    (s.browse rs k c answer).TellsWell := by
  unfold browse
  split
  · exact Turn.tellsWell_done _
  cases answer with
  | raised f => exact Turn.tellsWell_done _
  | refused r => exact Turn.tellsWell_of_ok (Next.outcome_tell _ _ _)
  | started h d =>
    unfold browseStarted
    dsimp only
    split
    · exact Turn.tellsWell_done _
    · split <;> exact Turn.tellsWell_done _

theorem tellsWell_resolve (target : RecordId) (c : Client) (answer : StartAnswer) :
    (s.resolve rs target c answer).TellsWell := by
  unfold resolve
  split
  · exact Turn.tellsWell_done _
  split
  · exact Turn.tellsWell_of_ok (Next.outcome_tell _ _ _)
  cases answer with
  | raised f => exact Turn.tellsWell_done _
  | refused r => exact Turn.tellsWell_of_ok (Next.outcome_tell _ _ _)
  | started h d =>
    unfold resolveStarted
    dsimp only
    split
    · exact Turn.tellsWell_done _
    · split <;> exact Turn.tellsWell_done _

theorem tellsWell_cancel (faults : CloseFaults) (id : Int) : (s.cancel faults rs id).TellsWell := by
  unfold cancel
  split
  · exact Turn.tellsWell_done _
  · split <;> exact Turn.tellsWell_done _

theorem tellsWell_close (faults : CloseFaults) : (s.close faults rs).TellsWell := by
  unfold close
  split <;> exact Turn.tellsWell_done _

end Session

end ServiceDiscovery
