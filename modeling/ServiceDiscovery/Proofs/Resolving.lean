import ServiceDiscovery.Proofs.Telling

/-!
What a resolve comes to. The first report on its handle ends it, whatever it says: the request goes,
its handle is closed, its client is told once, and at most its target changes.
-/
namespace ServiceDiscovery

/-- A handle that was closed reports nothing while its id belongs to a newer resolve. -/
def NoStaleReply : List Deed → Prop :=
  AtEach fun past e => ∀ h r, e.event = .report h r → h ∈ releases (outputsOf past) →
    ∀ o ∈ openings (outputsOf past), o.handle = h → ∀ id, o.request.replyTo = .resolve id →
    e.before.session.registry.resolves.get? id = none

theorem Deed.client?_of_resolve {d : Deed} {target : RecordId} {c : Client} {answer : StartAnswer}
    (he : d.event = .request (.resolve target c) answer) :
    d.client? = some c ∧ d.browses = false := by
  rw [Deed.client?, Deed.browses, he]
  exact ⟨rfl, rfl⟩

theorem Transition.replyTo_of_resolve {faults : CloseFaults} {s : Session} {rs : Records} {t : Turn}
    {target : RecordId} {c : Client} {answer : StartAnswer} {o : Opening}
    (he : Transition faults s rs (.request (.resolve target c) answer) t)
    (ho : o ∈ openings t.outputs) : ∃ id, o.request.replyTo = .resolve id := by
  cases he with
  | idle _ hos | refused _ hos =>
    rw [hos.openings] at ho
    cases ho
  | resolving _ _ hos =>
    rw [hos.openings] at ho
    rw [List.mem_singleton.mp ho]
    exact ⟨_, rfl⟩

theorem Transition.releases_of_resolveReply {faults : CloseFaults} {s : Session} {rs : Records}
    {t : Turn} {id flags interfaceIndex code port : Int} {fullname hostTarget : Option String}
    {txt : Text.Octets} {q : ResolveRequest}
    (he : Transition faults s rs
      (.reply (.resolve id) (.resolve flags interfaceIndex code fullname hostTarget port txt)) t)
    (hq : s.registry.resolves.get? id = some q) : releases t.outputs = [q.handle] := by
  cases he with
  | idle hunmoved => cases hq.symm.trans hunmoved
  | answered hq' _ hos | answeredFaulty hq' _ hos =>
    obtain rfl := Option.some.inj (hq.symm.trans hq')
    exact hos.releases

namespace History
variable {k : History}

theorem replyTo_of_resolve {d : Deed} {target : RecordId} {c : Client} {answer : StartAnswer}
    {o : Opening} (hd : d ∈ k.deeds) (hcall : d.event = .request (.resolve target c) answer)
    (ho : o ∈ openings d.outputs) : ∃ id, o.request.replyTo = .resolve id := by
  obtain ⟨k', -, -, hloop, hfollows⟩ := exists_at hd
  obtain ⟨t, he, -, ho⟩ := Deed.turn_of_opening (hloop ▸ k'.sound) ho
  obtain ⟨-, -, -, hmove⟩ := hfollows.of_request hcall
  rw [hmove] at he
  exact he.replyTo_of_resolve ho

theorem resolve_live {o : Opening} {id : Int} (ho : o ∈ openings (outputsOf k.deeds))
    (hopen : o.handle ∉ releases (outputsOf k.deeds)) (haddress : o.request.replyTo = .resolve id) :
    ∃ q, k.loop.session.registry.resolves.get? id = some q ∧ q.handle = o.handle := by
  have hheld := k.mem_held o ho hopen (by simp [haddress])
  simpa only [haddress] using holder ho hheld

theorem report_of_live {e : Deed} {id : Int} {q : ResolveRequest} {r : Reply}
    (hstale : NoStaleReply (k.deeds ++ [e])) (hbefore : e.before = k.loop)
    (hfollows : e.Follows k.deeds) (hm : e.move = .reply (.resolve id) r)
    (hq : k.loop.session.registry.resolves.get? id = some q) : e.event = .report q.handle r := by
  obtain ⟨o, ho, he, haddress, -⟩ := hfollows.of_reply hm
  by_cases hopen : o.handle ∈ releases (outputsOf k.deeds)
  · have hnone := (atEach_concat.mp hstale).2 _ r he hopen o ho rfl id haddress
    rw [hbefore, hq] at hnone
    cases hnone
  · obtain ⟨q', hq', hhandle⟩ := resolve_live ho hopen haddress
    obtain rfl := Option.some.inj (hq.symm.trans hq')
    rw [hhandle]
    exact he

theorem released_of_reported (k : History) : ∀ o ∈ openings (outputsOf k.deeds),
    (∃ id, o.request.replyTo = .resolve id) → Reported k.deeds o.handle →
    o.handle ∈ releases (outputsOf k.deeds) := by
  refine induction (P := fun ds _ => ∀ o ∈ openings (outputsOf ds),
    (∃ id, o.request.replyTo = .resolve id) → Reported ds o.handle →
    o.handle ∈ releases (outputsOf ds)) ?_ ?_ k
  · exact fun _ _ _ _ o ho => nomatch ho
  · rintro k d hbefore hd hP o ho ⟨id, haddress⟩ hreported
    rw [outputsOf_append, releases_append, List.mem_append, outputsOf_singleton]
    by_cases hclosed : o.handle ∈ releases (outputsOf k.deeds)
    · exact .inl hclosed
    cases reported_append.mp hreported with
    | inl hpast =>
      exact .inl (hP o (opened_before hbefore hd ho (mem_returned_of_reported hpast))
        ⟨id, haddress⟩ hpast)
    | inr hnow =>
      obtain ⟨r, he⟩ := reported_singleton.mp hnow
      obtain ⟨o', ho', hhandle, hfits, -, htakes⟩ := hd.takes_report he
      have ho := opened_before hbefore hd ho (hhandle ▸ List.mem_map_of_mem ho')
      obtain rfl := opening_unique ho ho' hhandle.symm
      obtain ⟨q, hq, hsame⟩ := resolve_live ho hclosed haddress
      rw [haddress] at hfits htakes
      cases r with
      | resolve =>
        rw [hbefore] at htakes
        have hreleases : releases d.outputs = _ := htakes.releases
        rw [hreleases, (Session.transition_reply _ _ _ _).releases_of_resolveReply hq, hsame]
        exact .inr (List.mem_singleton_self _)
      | _ => cases hfits

/-- The handle of a resolve is closed by a report on it, or with the session. -/
theorem reported_or_closed (k : History) (hstale : NoStaleReply k.deeds) :
    ∀ o ∈ openings (outputsOf k.deeds), (∃ id, o.request.replyTo = .resolve id) →
    o.handle ∈ releases (outputsOf k.deeds) →
    Reported k.deeds o.handle ∨ k.loop.session.closed = true := by
  refine invariant (P := fun ds s _ => NoStaleReply ds → ∀ o ∈ openings (outputsOf ds),
    (∃ id, o.request.replyTo = .resolve id) → o.handle ∈ releases (outputsOf ds) →
    Reported ds o.handle ∨ s.closed = true) ?_ ?_ ?_ k hstale
  · exact fun _ _ _ _ _ o ho => nomatch ho
  · intro k d hbefore hd _ hP hkeeps hstale o ho haddress hclosed
    have hopenings : openings d.outputs = [] := hkeeps.openings
    have hreleases : releases d.outputs = [] := hkeeps.releases
    simp only [outputsOf_append, outputsOf_singleton, openings_append, releases_append, hopenings,
      hreleases, List.append_nil] at ho hclosed
    exact (hP hstale.of_append o ho haddress hclosed).imp_left fun h => reported_append.mpr (.inl h)
  · intro k d t hbefore hd hP he ht hstale o ho haddress hclosed
    rw [outputsOf_append, releases_append, List.mem_append, outputsOf_singleton] at hclosed
    cases hclosed with
    | inl hclosed =>
      have ho := opened_before hbefore hd ho (k.ledger.released _ hclosed)
      exact (hP hstale.of_append o ho haddress hclosed).imp (fun h => reported_append.mpr (.inl h))
        he.closed_of_closed
    | inr hclosed =>
      obtain ⟨id, haddress⟩ := haddress
      obtain ⟨k', hk', -⟩ := exists_after hbefore hd
      -- whoever's handle this closes has the address of a resolve
      have hother (r : Request) (h : Handle) (address : ReplyTo) (hs : Stems k.deeds r h address)
          (hh : o.handle = h) : address = .resolve id := by
        subst hh
        rw [← haddress]
        exact (replyTo_of_stems (k := k') (hk' ▸ ho) (hk' ▸ hs.append [d])).symm
      have hreleases : releases d.outputs = releases t.outputs := ht.releases
      rw [hreleases] at hclosed
      generalize hm : d.move = m at he
      cases he with
      | idle _ hos | refused _ hos | announced _ _ _ _ hos | orphaned _ hos | confirmed _ _ hos
      | browsing _ hos | browseFailed _ _ hos | appeared _ _ _ _ _ hos | vanished _ _ _ hos
      | resolving _ _ hos =>
        rw [hos.releases] at hclosed
        cases hclosed
      | lost hg _ _ hos | lostFaulty hg _ hos =>
        rw [hos.releases] at hclosed
        obtain ⟨a, ha⟩ := k.origins.registration _ hg
        cases hother _ _ _ ha (List.mem_singleton.mp hclosed)
      | cancelled hq hos =>
        rw [hos.releases] at hclosed
        have horigin := k.origins.browse _ (RequestTable.mem_values_of_get? hq)
        cases hother _ _ _ horigin (List.mem_singleton.mp hclosed)
      | answered hq _ hos | answeredFaulty hq _ hos =>
        rw [hos.releases] at hclosed
        rw [List.mem_singleton.mp hclosed]
        have hreport := report_of_live hstale hbefore hd hm hq
        exact .inl (reported_append.mpr (.inr (reported_singleton.mpr ⟨_, hreport⟩)))
      | closed => exact .inr rfl

end History

def resolveOutcome (browseId : Int) (target : RecordId) (code : Int) (txt : Text.Octets) :
    Notification :=
  if code ≠ ErrorCode.noError then .failed .resolve browseId code (ErrorCode.message code) true
  else if Txt.prefixOf txt = "" then
    .failed .resolve browseId ErrorCode.localError ErrorCode.prefixNotFound false
  else .resolved browseId target

theorem Session.settlement_eq (rs : Records) (q : ResolveRequest) (code : Int)
    (fullname hostTarget : Option String) (port : Int) (txt : Text.Octets) :
    settlement rs q code fullname hostTarget port txt =
      (if code = ErrorCode.noError ∧ Txt.prefixOf txt ≠ "" then
          rs.modify q.target (located fullname hostTarget port (Txt.prefixOf txt)
            (Txt.certificateOf txt))
        else rs,
        resolveOutcome q.browseId q.target code txt) := by
  unfold settlement resolveOutcome
  by_cases hcode : code = ErrorCode.noError <;> by_cases hprefix : Txt.prefixOf txt = "" <;>
    simp [hcode, hprefix]

/-- The first answer to a resolve takes the request away and closes its handle before the client is
told. The target alone changes, and only if the answer is without error and gives a name prefix. -/
def FirstAnswer (e : Deed) (target : RecordId) (c : Client) (h : Handle) (r : Reply) : Prop :=
  ∃ id browseId flags interfaceIndex code fullname hostTarget port txt,
    r = .resolve flags interfaceIndex code fullname hostTarget port txt ∧
    e.before.session.registry.resolves.get? id = some ⟨id, h, target, browseId, c⟩ ∧
    e.after.session = { e.before.session with
      registry.resolves := e.before.session.registry.resolves.erase id
      mux := (e.before.session.mux.remove h).2 } ∧
    (∀ q ∈ e.after.session.registry.resolves.values, q.handle ≠ h) ∧
    h ∉ e.after.session.mux.handles ∧ h ∈ releases e.outputs ∧
    e.after.records = (if code = ErrorCode.noError ∧ Txt.prefixOf txt ≠ "" then
        e.before.records.modify target fun record => { record with
          fullname := fullname.getD "", hostname :=
            hostTarget.getD "", port, namePrefix := Txt.prefixOf txt,
          certificate := Txt.certificateOf txt, state := .resolved }
      else e.before.records) ∧
    invocations e.outputs = (if c.wants (resolveOutcome browseId target code txt) then
        [⟨c, resolveOutcome browseId target code txt⟩]
      else []) ∧
    ∀ i ∈ invocations e.outputs, ∃ os, e.outputs = os ++ [.invoke i] ∧ h ∈ releases os

namespace History
variable {k : History} {d e : Deed} {target : RecordId} {c : Client} {answer : StartAnswer}
  {h : Handle} {r : Reply}

theorem unanswered_live (hstale : NoStaleReply k.deeds) (hd : d ∈ k.deeds)
    (hcall : d.event = .request (.resolve target c) answer) (hh : h ∈ returned [d])
    (hfirst : ¬Reported k.deeds h) (hopen : k.loop.session.closed = false) :
    ∃ id browseId, (∀ o ∈ openings (outputsOf k.deeds), o.handle = h →
      o.request.replyTo = .resolve id) ∧
      k.loop.session.registry.resolves.get? id = some ⟨id, h, target, browseId, c⟩ := by
  obtain ⟨o, ho, rfl⟩ := (mem_returned_singleton d).mp hh
  have hmem := mem_openings hd ho
  obtain ⟨id, haddress⟩ := replyTo_of_resolve hd hcall ho
  have hunreleased : o.handle ∉ releases (outputsOf k.deeds) := by
    intro hclosed
    cases k.reported_or_closed hstale o hmem ⟨id, haddress⟩ hclosed with
    | inl hreported => exact hfirst hreported
    | inr hclosed =>
      rw [hopen] at hclosed
      cases hclosed
  obtain ⟨q, hq, hhandle⟩ := resolve_live hmem hunreleased haddress
  obtain ⟨d', hd', o', ho', he', hsame, -⟩ :=
    k.origins.resolve q (RequestTable.mem_values_of_get? hq)
  obtain rfl := opener_unique hd hd' ho ho' (hhandle.symm.trans hsame.symm)
  rw [hcall] at he'
  simp only [Occurrence.request.injEq, Request.resolve.injEq] at he'
  obtain ⟨⟨rfl, rfl⟩, -⟩ := he'
  have hid := k.sound.resolves.id_of_get? hq
  refine ⟨id, q.browseId, fun o' ho' hsame => opening_unique ho' hmem hsame ▸ haddress, ?_⟩
  rw [hq, ← hid, ← hhandle]

theorem first_answer (hstale : NoStaleReply k.deeds) (hfault : ∀ h, e.faults.escaping h = none)
    (hbefore : e.before = k.loop) (hfollows : e.Follows k.deeds) (hd : d ∈ k.deeds)
    (hcall : d.event = .request (.resolve target c) answer) (hh : h ∈ returned [d])
    (he : e.event = .report h r) (hfirst : ¬Reported k.deeds h)
    (hopen : k.loop.session.closed = false) : FirstAnswer e target c h r := by
  obtain ⟨id, browseId, haddress, hq⟩ := unanswered_live hstale hd hcall hh hfirst hopen
  obtain ⟨o, ho, hhandle, hfits, -, htakes⟩ := hfollows.takes_report he
  rw [haddress o ho hhandle] at hfits htakes
  cases r with
  | resolve flags interfaceIndex code fullname hostTarget port txt =>
    obtain ⟨os, hturn, hos⟩ := Session.onResolveReply_answered k.loop.records hq (hfault h) code
      fullname hostTarget port txt
    rw [hbefore, Session.onReply, hturn, Session.settlement_eq] at htakes
    have hreleases : releases e.outputs = [h] := htakes.releases.trans hos.releases
    obtain ⟨k', hk', hloop⟩ := exists_after hbefore hfollows
    have hclosed : h ∈ releases (outputsOf k'.deeds) := by
      simp [hk', hreleases]
    have hunheld : h ∉ k'.loop.session.held := fun hheld => k'.ledger.unreleased h hheld hclosed
    have hinv : invocations e.outputs = if c.wants (resolveOutcome browseId target code txt) then
        [⟨c, resolveOutcome browseId target code txt⟩] else [] := htakes.invocations_tell hos rfl
    refine ⟨id, browseId, flags, interfaceIndex, code, fullname, hostTarget, port, txt, rfl,
      hbefore ▸ hq, ?_, ?_, ?_, by simp [hreleases], ?_, ?_, ?_⟩
    · rw [hbefore]
      exact htakes.session
    · intro q hq hsame
      refine hunheld (hsame ▸ ?_)
      rw [hloop]
      simp only [Session.held, List.mem_append]
      exact .inl (.inr (List.mem_map_of_mem hq))
    · rw [← hloop]
      exact fun hwatched => hunheld (k'.ledger.watched h hwatched)
    · rw [hbefore]
      exact htakes.records
    · exact hinv
    · intro i hi
      rw [hinv] at hi
      by_cases hwants : c.wants (resolveOutcome browseId target code txt) = true
      · rw [if_pos hwants] at hi
        obtain rfl := List.mem_singleton.mp hi
        exact ⟨os, htakes.told _ (.ok none) (if_pos hwants), by simp [hos.releases]⟩
      · rw [if_neg hwants] at hi
        cases hi
  | _ => cases hfits

/-- A late reply changes nothing and tells nobody. -/
theorem late_reply (hstale : NoStaleReply (k.deeds ++ [e]))
    (hfollows : e.Follows k.deeds) (hd : d ∈ k.deeds)
    (hcall : d.event = .request (.resolve target c) answer) (hh : h ∈ returned [d])
    (he : e.event = .report h r) (hlate : Reported k.deeds h ∨ k.loop.session.closed = true) :
    e.after.session = e.before.session ∧ e.after.records = e.before.records ∧
      invocations e.outputs = [] := by
  obtain ⟨o, ho, rfl⟩ := (mem_returned_singleton d).mp hh
  have hmem := mem_openings hd ho
  obtain ⟨id, haddress⟩ := replyTo_of_resolve hd hcall ho
  have hclosed : o.handle ∈ releases (outputsOf k.deeds) := by
    cases hlate with
    | inl hreported => exact k.released_of_reported o hmem ⟨id, haddress⟩ hreported
    | inr hclosed =>
      by_contra hopen
      have hheld := k.mem_held o hmem hopen (by simp [haddress])
      rw [(k.ledger.shut hclosed).1] at hheld
      cases hheld
  have hnone := (atEach_concat.mp hstale).2 _ r he hclosed o hmem rfl id haddress
  obtain ⟨o', ho', hhandle, hfits, -, htakes⟩ := hfollows.takes_report he
  obtain rfl := opening_unique ho' hmem hhandle
  rw [haddress] at hfits htakes
  cases r with
  | resolve =>
    simp only [Session.onReply, Session.onResolveReply, Registry.popResolve, hnone] at htakes
    exact ⟨htakes.session, htakes.records, htakes.invocations⟩
  | _ => cases hfits

theorem reported_of_told_resolve (hstale : NoStaleReply k.deeds) (hd : d ∈ k.deeds)
    (hcall : d.event = .request (.resolve target c) answer) (hh : h ∈ returned [d])
    (htold : told c.ticket k.deeds ≠ []) : Reported k.deeds h := by
  obtain ⟨hclient, hbrowse⟩ := Deed.client?_of_resolve hcall
  refine reported_of_told hd hclient hh ?_ htold
  intro k' e later hk hbefore hfollows hd i hi hc
  obtain ⟨g, r, hg, rfl, hm⟩ | ⟨id, q, r, hq, rfl, hm⟩ :=
    teller hbefore hfollows hd hclient hbrowse hh hi hc
  · obtain ⟨o, ho, hhandle⟩ := (mem_returned_singleton d).mp hh
    obtain ⟨a, ha⟩ := k'.origins.registration g hg
    have haddress := replyTo_of_stems (mem_openings hd ho) (hhandle ▸ ha)
    obtain ⟨id, haddress'⟩ := replyTo_of_resolve hd hcall ho
    cases haddress.symm.trans haddress'
  · rw [hk] at hstale
    exact ⟨r, report_of_live hstale.of_append hbefore hfollows hm hq⟩

def ResolvesOnce (k : History) : Prop :=
  ∀ past d rest target c answer h, k.deeds = past ++ d :: rest →
    d.event = .request (.resolve target c) answer → h ∈ returned [d] →
    (told c.ticket k.deeds).length ≤ 1 ∧ (∀ i ∈ told c.ticket k.deeds, i.client = c) ∧
    (¬Reported k.deeds h → told c.ticket k.deeds = []) ∧
    ∀ mid e later r, rest = mid ++ e :: later → e.event = .report h r →
      (¬Reported mid h → e.before.session.closed = false →
        told c.ticket (past ++ d :: mid) = [] ∧ FirstAnswer e target c h r) ∧
      (Reported mid h ∨ e.before.session.closed = true →
        e.after.session = e.before.session ∧ e.after.records = e.before.records ∧
          invocations e.outputs = [])

/-- Resolves are told once at most whatever replies come, and without stale ones each is ended by
its first answer. -/
theorem resolves_once (k : History) (hfaults : OnlySystemFaults k.deeds) :
    (∀ d ∈ k.deeds, ∀ target c answer, d.event = .request (.resolve target c) answer →
      (told c.ticket k.deeds).length ≤ 1 ∧ ∀ i ∈ told c.ticket k.deeds, i.client = c) ∧
    (NoStaleReply k.deeds → k.ResolvesOnce) := by
  constructor
  · intro d hd target c answer hcall
    obtain ⟨hclient, hbrowse⟩ := Deed.client?_of_resolve hcall
    exact told_once hd hclient hbrowse
  intro hstale past d rest target c answer h hk hcall hh
  have hd : d ∈ k.deeds := by simp [hk]
  obtain ⟨hclient, hbrowse⟩ := Deed.client?_of_resolve hcall
  obtain ⟨honce, hwho⟩ := told_once hd hclient hbrowse
  refine ⟨honce, hwho, ?_, ?_⟩
  · exact fun hnone => of_not_not fun htold =>
      hnone (reported_of_told_resolve hstale hd hcall hh htold)
  rintro mid e later r rfl he
  have hk : k.deeds = (past ++ d :: mid) ++ e :: later := by simp [hk]
  have hfault := CloseFaults.escaping_eq_none (hfaults _ _ _ hk)
  obtain ⟨k', hk', hloop, hfollows⟩ := exists_before hk
  have hd : d ∈ k'.deeds := by simp [hk']
  have hk : k.deeds = (past ++ d :: mid ++ [e]) ++ later := by simp [hk]
  rw [hk] at hstale
  rw [← hk'] at hfollows hstale ⊢
  constructor
  · intro hfirst hopen
    have hk : k.deeds = (past ++ d :: mid) ++ e :: later := by simp [hk]
    have hfirst : ¬Reported k'.deeds h := hk' ▸ not_reported_of_call hk hh hfirst
    refine ⟨of_not_not fun htold => hfirst ?_, ?_⟩
    · exact reported_of_told_resolve hstale.of_append.of_append hd hcall hh htold
    · exact first_answer hstale.of_append.of_append hfault hloop.symm hfollows hd hcall hh he hfirst
        (hloop ▸ hopen)
  · intro hlate
    refine late_reply hstale.of_append hfollows hd hcall hh he (hlate.imp ?_ ?_)
    · rintro ⟨e', hmem, hreport⟩
      exact ⟨e', by simp [hk', hmem], hreport⟩
    · exact fun hclosed => hloop ▸ hclosed

def resolvedOnce : History :=
  (((start "A" {} false {}).add {} (.request (.browse {} { ticket := 1 }) (.started 1 10))).add {}
    (.report 1 (.browse 2 0 0 "B" (some "_ndn._udp") (some "local")))).add {}
    (.request (.resolve 1 { ticket := 2 }) (.started 2 11)) |>.add {}
    (.report 2 (.resolve 0 0 0 (some "f") (some "h") 1 [4, 0x70, 0x3d, 0x2f, 0x31]))

def resolvedAgain : History :=
  resolvedOnce.add {} (.request (.resolve 1 { ticket := 3 }) (.started 3 12))

theorem resolves_once_resolvedAgain :
    (told 2 resolvedAgain.deeds).map (·.what) = [.resolved 1 1] ∧ resolvedAgain.ResolvesOnce := by
  have hfaults : OnlySystemFaults resolvedAgain.deeds := by
    refine atEach_add (atEach_add (atEach_add (atEach_add (atEach_add (atEach_start _ _ _ _)
      ?_) ?_) ?_) ?_) ?_ <;> exact fun m hm h f hf => nomatch hf
  have hstale : NoStaleReply resolvedAgain.deeds := by
    refine atEach_add (atEach_add (atEach_add (atEach_add (atEach_add (atEach_start _ _ _ _)
      ?_) ?_) ?_) ?_) ?_ <;> rintro m - h r ⟨⟩ hclosed <;> refine absurd hclosed ?_ <;>
        decide +kernel
  exact ⟨by decide +kernel, (resolvedAgain.resolves_once hfaults).2 hstale⟩

def answeredStale : History :=
  resolvedAgain.add {}
    (.report 2 (.resolve 0 0 0 (some "g") (some "h") 2 [4, 0x70, 0x3d, 0x2f, 0x32]))

def staleReply : History :=
  answeredStale.add {}
    (.report 3 (.resolve 0 0 0 (some "i") (some "h") 3 [4, 0x70, 0x3d, 0x2f, 0x33]))

/-- With stale replies the first answer to a resolve may come too late. -/
theorem not_resolves_once_staleReply :
    ¬∀ k : History, OnlySystemFaults k.deeds → k.ResolvesOnce := by
  intro hall
  have hfaults : OnlySystemFaults staleReply.deeds := by
    refine atEach_add (atEach_add (atEach_add (atEach_add (atEach_add (atEach_add (atEach_add
      (atEach_start _ _ _ _) ?_) ?_) ?_) ?_) ?_) ?_) ?_ <;> exact fun m hm h f hf => nomatch hf
  obtain ⟨d, hd, hcall, -⟩ := exists_deed resolvedOnce {}
    (.request (.resolve 1 { ticket := 3 }) (.started 3 12)) (by decide +kernel)
  obtain ⟨late, hlate, hstale, -⟩ := exists_deed resolvedAgain {}
    (.report 2 (.resolve 0 0 0 (some "g") (some "h") 2 [4, 0x70, 0x3d, 0x2f, 0x32]))
      (by decide +kernel)
  obtain ⟨e, he, hreport, hbefore⟩ := exists_deed answeredStale {}
    (.report 3 (.resolve 0 0 0 (some "i") (some "h") 3 [4, 0x70, 0x3d, 0x2f, 0x33]))
      (by decide +kernel)
  have hsplit : staleReply.deeds = resolvedOnce.deeds ++ d :: ([late] ++ e :: []) := by
    rw [staleReply, he, answeredStale, hlate, resolvedAgain, hd]
    simp
  have hreturned : 3 ∈ returned [d] := by
    have hboth : returned resolvedAgain.deeds = returned resolvedOnce.deeds ++ returned [d] := by
      rw [resolvedAgain, hd, returned_append]
    have hnow : 3 ∈ returned resolvedAgain.deeds := by decide +kernel
    have hbefore : 3 ∉ returned resolvedOnce.deeds := by decide +kernel
    exact (List.mem_append.mp (hboth ▸ hnow)).resolve_left hbefore
  obtain ⟨-, -, -, hreplies⟩ := hall staleReply hfaults _ _ _ _ _ _ 3 hsplit hcall hreturned
  have hfirst : ¬Reported [late] 3 := by
    rw [reported_singleton, hstale]
    rintro ⟨r, ⟨⟩⟩
  obtain ⟨-, id, browseId, _, _, _, _, _, _, _, -, hlive, -⟩ :=
    (hreplies [late] e [] _ rfl hreport).1 hfirst (by rw [hbefore]; decide +kernel)
  have hnone : answeredStale.loop.session.registry.resolves.size = 0 := by decide +kernel
  rw [hbefore, RequestTable.get?, List.length_eq_zero_iff.mp hnone] at hlive
  cases hlive

end History
end ServiceDiscovery
