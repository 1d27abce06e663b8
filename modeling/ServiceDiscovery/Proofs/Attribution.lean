import ServiceDiscovery.Proofs.Calls

/-!
Whom the events of a browse reach. Ids and descriptors are handed out again, handles are not: an
event of an open handle goes to the request that its handle was returned for, and to no other one.
-/
namespace ServiceDiscovery

def Notification.browse? : Notification → Option Int
  | .added id _ => some id
  | .removed id _ => some id
  | .failed .browse id .. => some id
  | _ => none

def Session.browseHandle? (s : Session) (id : Int) : Option Handle :=
  (s.registry.browses.get? id).map (·.handle)

theorem Session.browse?_settlement (rs : Records) (q : ResolveRequest) (code : Int)
    (fullname hostTarget : Option String) (port : Int) (txt : Text.Octets) :
    (settlement rs q code fullname hostTarget port txt).2.browse? = none := by
  obtain ⟨_, _, _, h⟩ | h :=
    settlement_cases rs q code fullname hostTarget port txt <;> rw [h] <;> rfl

theorem Transition.browse_told {faults : CloseFaults} {s : Session} {rs : Records}
    {address : ReplyTo} {r : Reply} {t : Turn} {i : Invocation} {id : Int}
    (he : Transition faults s rs (.reply address r) t) (hs : s.Sound)
    (hi : t.next.invocation? = some i) (hwhat : i.what.browse? = some id) :
    address = .browse id ∧ ∃ q, s.registry.browses.get? id = some q ∧ i.client = q.client ∧
      ∃ q', t.session.registry.browses.get? id = some q' ∧ q'.handle = q.handle := by
  cases he with
  | idle => cases hi
  | confirmed =>
    obtain rfl := Next.eq_of_invocation?_tell hi
    cases hwhat
  | @lost g =>
    by_cases hsettled : g.settled = true
    · simp only [hsettled, if_true] at hi
      cases hi
    · simp only [hsettled] at hi
      obtain rfl := Next.eq_of_invocation?_tell hi
      cases hwhat
  | lostFaulty => cases hi
  | browseFailed hq =>
    obtain rfl := Next.eq_of_invocation?_tell hi
    obtain rfl := Option.some.inj hwhat
    exact ⟨rfl, _, hq, rfl, _, hq, rfl⟩
  | @appeared q _ _ _ name _ _ _ _ hq =>
    obtain rfl := Next.eq_of_invocation?_tell hi
    have hid := hs.browses.id_of_get? hq
    obtain rfl := hid.symm.trans (Option.some.inj hwhat)
    refine ⟨rfl, q, hq, rfl, q.track name rs.nextId, ?_, rfl⟩
    simp only [hid]
    exact RequestTable.get?_modify_self _ hq
  | @vanished q _ _ _ name _ _ _ _ hq =>
    obtain rfl := Next.eq_of_invocation?_tell hi
    have hid := hs.browses.id_of_get? hq
    obtain rfl := hid.symm.trans (Option.some.inj hwhat)
    refine ⟨rfl, q, hq, rfl, q.drop name, ?_, rfl⟩
    simp only [hid]
    exact RequestTable.get?_modify_self _ hq
  | answered =>
    obtain rfl := Next.eq_of_invocation?_tell hi
    rw [Session.browse?_settlement] at hwhat
    cases hwhat
  | answeredFaulty => cases hi

namespace History
variable {k : History}

theorem returned_browse {d : Deed} {o : Opening} {constraints : Constraints} {c : Client}
    {h : Handle} {descriptor id : Int} (hd : d ∈ k.deeds)
    (he : d.event = .request (.browse constraints c) (.started h descriptor))
    (ho : o ∈ openings d.outputs) (haddress : o.request.replyTo = .browse id) :
    .returned (.ok (some id)) ∈ d.outputs := by
  obtain ⟨k', -, -, hloop, hfollows⟩ := exists_at hd
  let t := d.before.session.browse d.before.records constraints c (.started h descriptor)
  have hstep : (d.after, d.outputs) = d.before.settle t := hfollows.eq_request he
  have hopenings : openings d.outputs = openings t.outputs :=
    (hstep ▸ Loop.takes_settle d.before t).openings
  by_cases hclosed : d.before.session.closed = true
  · simp only [hopenings, t, Session.browse, hclosed, if_true] at ho
    cases ho
  · obtain ⟨os, hturn, hos⟩ := Session.browse_started d.before.records (hloop ▸ k'.sound)
      (by simpa using hclosed) constraints c h descriptor
    rw [hopenings, show t = _ from hturn, hos.openings] at ho
    obtain rfl := List.mem_singleton.mp ho
    obtain rfl := ReplyTo.browse.inj haddress
    have hreturned :=
      Loop.returned_mem_settle (t := t) (hfollows.of_request he).1 (congrArg Turn.next hturn)
    rwa [← hstep] at hreturned

/-- The events of an open browse handle find its request live. -/
theorem browse_live {o : Opening} {id : Int} (ho : o ∈ openings (outputsOf k.deeds))
    (hopen : o.handle ∉ releases (outputsOf k.deeds)) (haddress : o.request.replyTo = .browse id) :
    ∃ q, k.loop.session.registry.browses.get? id = some q ∧ q.handle = o.handle := by
  have hheld := k.mem_held o ho hopen (by simp [haddress])
  simpa only [haddress] using holder ho hheld

theorem takes_browse_report {d : Deed} {q : BrowseRequest} {r : Reply} (hbefore : d.before = k.loop)
    (hd : d.Follows k.deeds) (hq : q ∈ k.loop.session.registry.browses.values)
    (he : d.event = .report q.handle r) :
    ∃ flags interfaceIndex code name regtype domain,
      r = .browse flags interfaceIndex code name regtype domain ∧ d.move = .reply (.browse q.id) r ∧
      Loop.Takes
        (k.loop.session.onBrowseReply k.loop.records q.id flags interfaceIndex code name regtype
          domain) (d.after, d.outputs) := by
  obtain ⟨o, ho, hhandle, hfits, hmove, htakes⟩ := hd.takes_report he
  have haddress := replyTo_of_stems ho (hhandle ▸ k.origins.browse q hq)
  rw [haddress] at hfits hmove htakes
  cases r with
  | browse flags interfaceIndex code name regtype domain =>
    exact ⟨_, _, _, _, _, _, rfl, hmove, hbefore ▸ htakes⟩
  | resolve | register => cases hfits

theorem exists_browse_call {id : Int} {q : BrowseRequest}
    (hq : k.loop.session.registry.browses.get? id = some q) :
    ∃ b ∈ k.deeds,
      (∃ constraints descriptor,
        b.event = .request (.browse constraints q.client) (.started q.handle descriptor)) ∧
      .returned (.ok (some id)) ∈ b.outputs ∧ ∀ b' ∈ k.deeds, q.handle ∈ returned [b'] →
      b' = b := by
  obtain ⟨b, hb, o, ho, hevent, hhandle, haddress⟩ :=
    k.origins.browse q (RequestTable.mem_values_of_get? hq)
  rw [k.sound.browses.id_of_get? hq] at haddress
  refine ⟨b, hb, ⟨_, _, hevent⟩, returned_browse hb hevent ho haddress, ?_⟩
  intro b' hb' hreturned
  obtain ⟨o', ho', hhandle'⟩ := (mem_returned_singleton b').mp hreturned
  exact opener_unique hb' hb ho' ho (hhandle'.trans hhandle.symm)

theorem notMem_releases_of_browseHandle? {id : Int} {h : Handle}
    (hlive : k.loop.session.browseHandle? id = some h) : h ∉ releases (outputsOf k.deeds) := by
  obtain ⟨q, hq, rfl⟩ := Option.map_eq_some_iff.mp hlive
  refine k.ledger.unreleased _ ?_
  simp only [Session.held, List.mem_append]
  exact .inl (.inl (List.mem_map_of_mem (RequestTable.mem_values_of_get? hq)))

theorem mem_releases_of_cancel {past : List Deed} {d : Deed} {id : Int} {h : Handle}
    {answer : StartAnswer} (hd : d.Follows past) (he : d.event = .request (.cancel id) answer)
    (hlive : d.before.session.browseHandle? id = some h) : h ∈ releases d.outputs := by
  obtain ⟨q, hq, rfl⟩ := Option.map_eq_some_iff.mp hlive
  let t := d.before.session.cancel d.faults d.before.records id
  have hstep : (d.after, d.outputs) = d.before.settle t := hd.eq_request he
  have hreleases : releases d.outputs = releases t.outputs :=
    (hstep ▸ Loop.takes_settle d.before t).releases
  obtain ⟨os, o, hturn, hos, -⟩ := Session.cancel_live d.faults d.before.records hq
  rw [hreleases, show t = _ from hturn, hos.releases]
  exact List.mem_singleton_self _

theorem browse_told {past rest : List Deed} {e : Deed} {h : Handle} {r : Reply} {i : Invocation}
    {id : Int} (hk : k.deeds = past ++ e :: rest) (he : e.event = .report h r)
    (hopen : h ∉ releases (outputsOf past)) (hi : i ∈ invocations e.outputs)
    (hwhat : i.what.browse? = some id) :
    ∃ q, e.before.session.registry.browses.get? id = some q ∧ q.handle = h ∧ q.client = i.client ∧
      e.after.session.browseHandle? id = some h := by
  obtain ⟨k', rfl, hloop, hfollows⟩ := exists_before hk
  obtain ⟨o, ho, rfl, -, -, htakes⟩ := hfollows.takes_report he
  have htransition := Session.transition_reply e.faults (s := e.before.session) e.before.records
    o.request.replyTo r
  have htold : invocations e.outputs = _ := htakes.invocations_eq htransition
  rw [htold, Option.mem_toList] at hi
  obtain ⟨haddress, q, hq, hclient, q', hq', hsame⟩ :=
    htransition.browse_told (hloop ▸ k'.sound) hi hwhat
  obtain ⟨q₀, hlive, hhandle⟩ := browse_live ho hopen haddress
  rw [hloop, hq] at hlive
  obtain rfl := Option.some.inj hlive
  have hafter : e.after.session = _ := htakes.session
  refine ⟨q, hq, hhandle, hclient.symm, ?_⟩
  rw [Session.browseHandle?, hafter, hq', Option.map_some, hsame, hhandle]

/-- Announcements and browse errors are told to the call that their handle was returned for, with
its id, while it is live; and once a browse is cancelled its handle is closed, pumped no more and
never live again, whoever gets its id. -/
theorem browse_events_attributed (k : History) (hsilent : SilentOnceClosed k.deeds) :
    (∀ past rest e h r i id, k.deeds = past ++ e :: rest → e.event = .report h r →
      i ∈ invocations e.outputs → i.what.browse? = some id →
      ∃ b ∈ past,
        (∃ constraints descriptor,
          b.event = .request (.browse constraints i.client) (.started h descriptor)) ∧
        .returned (.ok (some id)) ∈ b.outputs ∧ (∀ b' ∈ past, h ∈ returned [b'] → b' = b) ∧
        e.before.session.browseHandle? id = some h ∧ e.after.session.browseHandle? id = some h) ∧
    ∀ past rest x h id answer, k.deeds = past ++ x :: rest →
      x.event = .request (.cancel id) answer →
      x.before.session.browseHandle? id = some h → h ∈ releases x.outputs ∧
      ∀ e ∈ rest, h ∉ pumps e.outputs ∧ (∀ r, e.event ≠ .report h r) ∧
        ∀ id', e.before.session.browseHandle? id' ≠ some h := by
  constructor
  · intro past rest e h r i id hk he hi hwhat
    obtain ⟨q, hq, rfl, hclient, hafter⟩ :=
      browse_told hk he (hsilent past e rest hk h r he) hi hwhat
    obtain ⟨k', rfl, hloop, -⟩ := exists_before hk
    obtain ⟨b, hb, hevent, hreturned, hunique⟩ := exists_browse_call (hloop ▸ hq)
    refine ⟨b, hb, hclient ▸ hevent, hreturned, hunique, ?_, hafter⟩
    rw [Session.browseHandle?, hq, Option.map_some]
  · intro past rest x h id answer hk hx hlive
    obtain ⟨-, -, -, hfollows⟩ := exists_before hk
    have hclosed := mem_releases_of_cancel hfollows hx hlive
    refine ⟨hclosed, fun e he => ?_⟩
    obtain ⟨mid, later, rfl⟩ := List.append_of_mem he
    have hk : k.deeds = (past ++ x :: mid) ++ e :: later := by simp [hk]
    have hclosed : h ∈ releases (outputsOf (past ++ x :: mid)) := by
      rw [outputsOf_append, releases_append]
      exact List.mem_append_right _ (by simp [outputsOf, hclosed])
    refine ⟨notMem_pumps hk hclosed, fun r hr => hsilent _ _ _ hk h r hr hclosed, ?_⟩
    intro id' hlive'
    obtain ⟨k', hpast, hloop, -⟩ := exists_before hk
    exact notMem_releases_of_browseHandle? (hloop ▸ hlive') (hpast ▸ hclosed)

def reissued : History :=
  (((((start "A" {} false {}).add {} (.request (.browse {} { ticket := 1 }) (.started 1 10))).add {}
    (.report 1 (.browse 2 0 0 "B" (some "_ndn._udp") (some "local")))).add {}
    (.request (.cancel 1) (.raised (.closed "")))).add {}
    (.request (.browse {} { ticket := 2 }) (.started 2 10))).add {}
    (.report 2 (.browse 2 0 0 "C" (some "_ndn._udp") (some "local")))

theorem browse_events_attributed_reissued :
    (invocations (outputsOf reissued.deeds)).map (fun i => (i.client.ticket, i.what)) =
      [(1, .added 1 1), (2, .added 1 2)] ∧
    ∀ past rest e r i, reissued.deeds = past ++ e :: rest → e.event = .report 2 r →
      i ∈ invocations e.outputs → i.what.browse? = some 1 →
      ∃ b ∈ past, (∃ constraints descriptor,
        b.event = .request (.browse constraints i.client) (.started 2 descriptor)) := by
  have hsilent : SilentOnceClosed reissued.deeds := by
    refine atEach_add (atEach_add (atEach_add (atEach_add (atEach_add (atEach_start _ _ _ _)
      ?_) ?_) ?_) ?_) ?_ <;> rintro m - h r ⟨⟩ <;> decide +kernel
  refine ⟨by decide +kernel, ?_⟩
  intro past rest e r i hk he hi hwhat
  obtain ⟨b, hb, hevent, -⟩ :=
    (reissued.browse_events_attributed hsilent).1 past rest e 2 r i 1 hk he hi hwhat
  exact ⟨b, hb, hevent⟩

end History
end ServiceDiscovery
