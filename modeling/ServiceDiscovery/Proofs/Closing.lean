import ServiceDiscovery.Proofs.Handles

/-!
The end of a session. Closing it never fails, closes every handle that is held and leaves nothing
behind. After that only control moves on, whatever client code and the provider still do.
-/
namespace ServiceDiscovery
namespace Session
variable {s : Session} {rs : Records}

theorem outcomes_close (faults : CloseFaults) (s : Session) (rs : Records) :
    outcomes (s.close faults rs).outputs = [] := by
  have hselector : outcomes
      (if faults.selector.isSome then [Output.notice .multiplexerCloseFailed] else []) = [] := by
    split <;> rfl
  have hprovider (owns : Bool) : outcomes (if owns then
      .closeProvider :: if faults.provider.isSome then [Output.notice .providerCloseFailed] else []
      else []) = [] := by
    split
    · split <;> rfl
    · rfl
  obtain ⟨os, mux, hr, hos⟩ := releaseAllQuietly_eq faults { s with closed := true, registry := {} }
    (s.registry.resolves.values.map (·.handle) ++ s.registry.browses.values.map (·.handle))
  obtain ⟨os', mux', hw, hos'⟩ :=
    withdraw_eq faults { s with closed := true, registry := {}, mux } rs
  unfold close
  split
  · rfl
  · simp only [hr, hw, outcomes_append, hos.outcomes, hos'.outcomes, hselector, hprovider,
      List.append_nil]

theorem OwnApart.state_of_closing (ho : s.OwnApart rs)
    (hs : (s.ownRecord rs).state = .created ∨ (s.ownRecord rs).state.isActive = true) :
    ((if (s.ownRecord rs).state.isActive then rs.modify s.own fun r => { r with state := .created }
      else rs).get s.own).state = .created := by
  split
  · rw [ho.get_modify_own]
  · rename_i hidle
    exact hs.resolve_right hidle

end Session

open Session in
/-- The own record is as at the start, or shows a registration. -/
theorem Transition.created_or_active {faults : CloseFaults} {s : Session} {rs : Records} {m : Move}
    {t : Turn} (he : Transition faults s rs m t) (ho : s.OwnApart rs)
    (hs : (s.ownRecord rs).state = .created ∨ (s.ownRecord rs).state.isActive = true) :
    (t.session.ownRecord t.records).state = .created ∨
      (t.session.ownRecord t.records).state.isActive = true := by
  cases he with
  | announced =>
    exact .inr (by simp [ownRecord, ho.get_modify_own, advertised, ServiceState.isActive])
  | confirmed =>
    exact .inr (by simp [ownRecord, ho.get_modify_own, confirmedIn, ServiceState.isActive])
  | lost => exact .inl (by simp [ownRecord, ho.get_modify_own])
  | appeared =>
    rw [ownRecord, ho.get_add]
    exact hs
  | answered hq =>
    rw [ownRecord, ho.get_settlement hq]
    exact hs
  | closed => exact .inl (ho.state_of_closing hs)
  | _ => exact hs

theorem History.created_or_active (k : History) :
    (k.loop.session.ownRecord k.loop.records).state = .created ∨
      (k.loop.session.ownRecord k.loop.records).state.isActive = true := by
  refine invariant (P := fun _ s rs => (s.ownRecord rs).state = .created ∨
    (s.ownRecord rs).state.isActive = true) ?_ ?_ ?_ k
  · intro uuid codec ownsProvider records
    left
    simp [Loop.start, Session.ownRecord, Records.get, Record.named, Record.new]
  · exact fun k d _ _ _ hP _ => hP
  · exact fun k d t _ _ hP he _ => he.created_or_active k.ownApart hP

structure Turn.Inert (s : Session) (rs : Records) (t : Turn) : Prop where
  session : t.session = s
  records : t.records = rs
  accounts : Accounts t.outputs [] []
  next : t.next.invocation? = none

theorem Turn.inert_done {os : List Output} (s : Session) (rs : Records) (o : Outcome)
    (hos : Accounts os [] []) : Turn.Inert s rs ⟨s, rs, os, .done o⟩ := ⟨rfl, rfl, hos, rfl⟩

structure Session.Over (s : Session) : Prop where
  closed : s.closed = true
  held : s.held = []
  watched : s.mux.watched = []

namespace Session.Over
variable {s : Session} (ho : s.Over)
include ho

theorem browses : s.registry.browses.values = [] :=
  List.map_eq_nil_iff.mp (List.append_eq_nil_iff.mp (List.append_eq_nil_iff.mp ho.held).1).1

theorem resolves : s.registry.resolves.values = [] :=
  List.map_eq_nil_iff.mp (List.append_eq_nil_iff.mp (List.append_eq_nil_iff.mp ho.held).1).2

theorem registration : s.registration = none := by
  simpa using (List.append_eq_nil_iff.mp ho.held).2

theorem browse?_eq_none (id : Int) : s.registry.browses.get? id = none :=
  RequestTable.get?_eq_none_of_values ho.browses id

theorem resolve?_eq_none (id : Int) : s.registry.resolves.get? id = none :=
  RequestTable.get?_eq_none_of_values ho.resolves id

theorem cancel_eq (faults : CloseFaults) (rs : Records) (id : Int) :
    s.cancel faults rs id = ⟨s, rs, [], .done (.ok none)⟩ := by
  simp only [cancel, Registry.popBrowse, ho.browse?_eq_none]

theorem inert_announce (rs : Records) (a : Advertisement) (c : Client) (answer : StartAnswer) :
    (s.announce rs a c answer).Inert s rs := by
  rw [announce, if_pos ho.closed]
  exact Turn.inert_done _ _ _ .nil

theorem inert_browse (rs : Records) (k : Constraints) (c : Client) (answer : StartAnswer) :
    (s.browse rs k c answer).Inert s rs := by
  rw [browse, if_pos ho.closed]
  exact Turn.inert_done _ _ _ .nil

theorem inert_resolve (rs : Records) (target : RecordId) (c : Client) (answer : StartAnswer) :
    (s.resolve rs target c answer).Inert s rs := by
  rw [resolve, if_pos ho.closed]
  exact Turn.inert_done _ _ _ .nil

theorem inert_reply (faults : CloseFaults) (rs : Records) (address : ReplyTo) (r : Reply) :
    (s.onReply faults rs address r).Inert s rs := by
  unfold onReply
  split
  · simp only [onRegisterReply, ho.registration]
    exact Turn.inert_done _ _ _ .nil
  · simp only [onBrowseReply, ho.browse?_eq_none]
    exact Turn.inert_done _ _ _ (.notice _)
  · simp only [onResolveReply, Registry.popResolve, ho.resolve?_eq_none]
    exact Turn.inert_done _ _ _ .nil
  · exact Turn.inert_done _ _ _ .nil

end Session.Over

namespace Loop
variable {l : Loop} {t : Turn} {r : Loop × List Output} {faults : CloseFaults}

structure Still (l : Loop) (r : Loop × List Output) : Prop where
  session : r.1.session = l.session
  records : r.1.records = l.records
  accounts : Accounts r.2 [] []

theorem Takes.still (ht : Takes t r) (hi : t.Inert l.session l.records) : Still l r := by
  refine ⟨ht.session.trans hi.session, ht.records.trans hi.records, ?_⟩
  constructor
  · rw [ht.openings, hi.accounts.openings]
  · rw [ht.releases, hi.accounts.releases]
  · rw [ht.pumps, hi.accounts.pumps]
  · rw [ht.invocations, hi.accounts.invocations, hi.next]
    rfl

theorem Keeps.still (hk : Keeps l r) (ho : l.session.Over) : Still l r := by
  refine ⟨hk.session, hk.records, hk.openings, hk.releases, ?_, hk.invocations⟩
  rw [List.eq_nil_iff_forall_not_mem]
  intro h hh
  have hwatched := hk.pumps h hh
  rw [Multiplexer.handles, ho.watched] at hwatched
  cases hwatched

theorem still_request (ho : l.session.Over) (faults : CloseFaults) (r : Request)
    (answer : StartAnswer) : Still l (l.request faults r answer) := by
  cases r with
  | announce a c => exact (takes_settle l _).still (ho.inert_announce _ a c answer)
  | browse k c => exact (takes_settle l _).still (ho.inert_browse _ k c answer)
  | resolve target c => exact (takes_settle l _).still (ho.inert_resolve _ target c answer)
  | cancel id =>
    refine (takes_settle l _).still ?_
    rw [ho.cancel_eq]
    exact Turn.inert_done _ _ _ .nil
  | run timeoutMs => exact (keeps_run l timeoutMs answer).still ho
  | close =>
    refine (takes_settle l _).still ?_
    rw [Session.close_of_closed _ _ ho.closed]
    exact Turn.inert_done _ _ _ .nil

/-- Once a session is over a step changes nothing of it and tells nobody. -/
theorem still_step (ho : l.session.Over) (faults : CloseFaults) (m : Move) :
    Still l (l.step faults m) := by
  cases m with
  | request r answer =>
    by_cases hl : l.isIdle = true
    · rw [step_request hl]
      exact still_request ho faults r answer
    · simp only [step, hl]
      exact (Keeps.refl l).still ho
  | reply address r =>
    by_cases hl : l.listens = true
    · exact (takes_reply hl address r).still (ho.inert_reply faults _ address r)
    · rw [step_reply_of_deaf (by simpa using hl)]
      exact (Keeps.refl l).still ho
  | finish raised => exact (keeps_finish l raised).still ho
  | waited reported f => exact (keeps_stepWaited l reported f).still ho
  | pumped e => exact (keeps_stepPumped l e).still ho

theorem still_run (ho : l.session.Over) (moves : List (CloseFaults × Move)) :
    Still l (run moves l) := by
  induction moves generalizing l with
  | nil => exact ⟨rfl, rfl, .nil⟩
  | cons m moves ih =>
    have hfirst := still_step ho m.1 m.2
    have hlater := ih (hfirst.session ▸ ho)
    refine ⟨hlater.session.trans hfirst.session, hlater.records.trans hfirst.records, ?_⟩
    simpa [run] using hfirst.accounts.append hlater.accounts

theorem step_end_of_over (ho : l.session.Over) (hl : l.isIdle = true) (faults : CloseFaults)
    (answer : StartAnswer) : l.step faults (.request .close answer) = (l, [.returned (.ok none)]) ∧
      ∀ id, l.step faults (.request (.cancel id) answer) = (l, [.returned (.ok none)]) := by
  constructor
  · rw [step_request hl, request, Session.close_of_closed _ _ ho.closed, Session.idle,
      settle_done hl]
    rfl
  · intro id
    rw [step_request hl, request, ho.cancel_eq, settle_done hl]
    rfl

end Loop

namespace History

theorem over_of_closed (k : History) (hclosed : k.loop.session.closed = true) :
    k.loop.session.Over :=
  ⟨hclosed, (k.ledger.shut hclosed).1, (k.ledger.shut hclosed).2⟩

theorem created_of_closed (k : History) (hclosed : k.loop.session.closed = true) :
    (k.loop.session.ownRecord k.loop.records).state = .created := by
  revert hclosed
  refine induction (P := fun _ l => l.session.closed = true →
    (l.session.ownRecord l.records).state = .created) ?_ ?_ k
  · exact fun _ _ _ _ hclosed => nomatch hclosed
  · intro k d hbefore _ hP hclosed
    by_cases hwas : k.loop.session.closed = true
    · have hstill := Loop.still_step (k.over_of_closed hwas) d.faults d.move
      rw [← hbefore] at hstill hP
      rw [Deed.after, hstill.session, hstill.records]
      exact hP (hbefore ▸ hwas)
    · obtain hkeeps | ⟨t, he, ht⟩ := Loop.step_cases (hbefore ▸ k.sound) d.faults d.move
      · rw [Deed.after, hkeeps.session, hbefore] at hclosed
        exact absurd hclosed hwas
      · rw [Deed.after, ht.session] at hclosed
        rw [Deed.after, ht.session, ht.records]
        rw [hbefore] at he
        generalize d.move = m at he
        cases he with
        | closed => exact k.ownApart.state_of_closing k.created_or_active
        | _ => exact absurd hclosed hwas

/-- Closing ends well in every state that can be reached, whatever the closing calls in it do. -/
theorem close_turn (k : History) (faults : CloseFaults) :
    ∃ s rs os closed, k.loop.session.close faults k.loop.records = ⟨s, rs, os, .done (.ok none)⟩ ∧
      Accounts os [] closed ∧ closed.Perm k.loop.session.held ∧ s.Over ∧
      (s.ownRecord rs).state = .created := by
  cases hclosed : k.loop.session.closed with
  | true =>
    refine ⟨_, _, _, [], Session.close_of_closed faults _ hclosed, .nil, ?_,
      k.over_of_closed hclosed, k.created_of_closed hclosed⟩
    rw [(k.over_of_closed hclosed).held]
  | false =>
    obtain ⟨os, mux, hturn, hwatched, -, hos⟩ :=
      Session.close_of_open faults k.loop.records hclosed
    refine ⟨_, _, os, _, hturn, hos, (Session.closing_perm k.ownApart).symm, ⟨rfl, ?_, hwatched⟩,
      k.ownApart.state_of_closing k.created_or_active⟩
    simp only [Session.held, k.ownApart.registration_of_closing]
    rfl

/-- Closing is total, complete and final, whatever the closing calls in it do. It comes back without
a fault and tells nobody; it closes each held handle once and no other one; no request, no watched
descriptor and no active own record is left; and from then on nobody is told anything, only control
moves on, and closing and cancelling change nothing. -/
theorem closing_is_final (k : History) (hidle : k.loop.isIdle = true) (faults : CloseFaults)
    (answer : StartAnswer) : ∃ l os, k.loop.step faults (.request .close answer) = (l, os) ∧
      l.stack = k.loop.stack ∧ outcomes os = [.ok none] ∧ invocations os = [] ∧
      (releases os).Perm k.loop.session.held ∧ (releases os).Nodup ∧
      l.session.registry.browses.values = [] ∧ l.session.registry.resolves.values = [] ∧
      l.session.registration = none ∧ l.session.mux.watched = [] ∧
      (l.session.ownRecord l.records).state = .created ∧
      ∀ moves, ∃ later os', Loop.run moves l = (later, os') ∧ later.session = l.session ∧
        later.records = l.records ∧ Accounts os' [] [] ∧
        (later.isIdle = true → ∀ faults answer,
          later.step faults (.request .close answer) = (later, [.returned (.ok none)]) ∧
          ∀ id, later.step faults (.request (.cancel id) answer) =
            (later, [.returned (.ok none)])) := by
  obtain ⟨s, rs, os, closed, hturn, hos, hperm, hover, hstate⟩ := k.close_turn faults
  have hstep : k.loop.step faults (.request .close answer) =
      (⟨s, rs, k.loop.stack⟩, os ++ [.returned (.ok none)]) := by
    rw [Loop.step_request hidle, Loop.request, hturn, Loop.settle_done hidle]
  have hreturned : outcomes os = [] := by
    have hnone := Session.outcomes_close faults k.loop.session k.loop.records
    rwa [hturn] at hnone
  have hreleases : releases (os ++ [.returned (.ok none)]) = closed := by
    rw [releases_append, hos.releases]
    exact List.append_nil _
  refine ⟨_, _, hstep, rfl, ?_, ?_, ?_, ?_, hover.browses, hover.resolves, hover.registration,
    hover.watched, hstate, ?_⟩
  · rw [outcomes_append, hreturned]
    rfl
  · rw [invocations_append, hos.invocations]
    rfl
  · rw [hreleases]
    exact hperm
  · rw [hreleases, hperm.nodup_iff]
    exact k.ledger.nodup
  · intro moves
    have hstill := Loop.still_run (l := ⟨s, rs, k.loop.stack⟩) hover moves
    have hlater : (Loop.run moves ⟨s, rs, k.loop.stack⟩).1.session.Over := hstill.session ▸ hover
    exact ⟨_, _, rfl, hstill.session, hstill.records, hstill.accounts,
      fun hl faults answer => Loop.step_end_of_over hlater hl faults answer⟩

def midPass : History :=
  (((((((((start "A" {} true {}).add {}
    (.request (.browse {} { ticket := 1 }) (.started 1 10))).add {}
    (.request (.announce { port := 9, namePrefix := "/a" } { ticket := 2 }) (.started 2 11))).add {}
    (.request (.run 5) (.raised (.closed "")))).add {} (.waited [11, 10] none)).add {}
    (.report 2 (.register 0 0 none none none))).add {} (.finish false)).add {}
    (.pumped .delivered)).add {}
    (.report 1 (.browse 2 0 0 "B" (some "_ndn._udp") (some "local")))).add {}
    (.request (.resolve 1 { ticket := 3 }) (.started 3 12))

def allFailing : CloseFaults where
  handle h := if h = 1 then some (.system ⟨some 9, "bad descriptor"⟩) else some (.failed "broken")
  selector := some (.failed "broken")
  provider := some (.failed "broken")

theorem closing_is_final_midPass :
    midPass.loop.isIdle = true ∧ midPass.loop.session.held = [1, 3, 2] ∧
    ∃ l os, midPass.loop.step allFailing (.request .close (.raised (.closed ""))) = (l, os) ∧
      outcomes os = [.ok none] ∧ (releases os).Perm [1, 3, 2] ∧ l.session.mux.watched = [] ∧
      (l.session.ownRecord l.records).state = .created ∧
      invocations (Loop.run [(allFailing, .finish false), ({}, .pumped .delivered),
        ({}, .reply .register (.register 0 0 none none none))] l).2 = [] := by
  have hidle : midPass.loop.isIdle = true := by decide +kernel
  have hheld : midPass.loop.session.held = [1, 3, 2] := by decide +kernel
  obtain ⟨l, os, hstep, -, hreturned, -, hreleases, -, -, -, -, hwatched, hstate, hlater⟩ :=
    midPass.closing_is_final hidle allFailing (.raised (.closed ""))
  obtain ⟨later, os', hrun, -, -, hos', -⟩ := hlater [(allFailing, .finish false),
    ({}, .pumped .delivered), ({}, .reply .register (.register 0 0 none none none))]
  exact ⟨hidle, hheld, l, os, hstep, hreturned, hheld ▸ hreleases, hwatched, hstate,
    by rw [hrun]; exact hos'.invocations⟩

end History
end ServiceDiscovery
