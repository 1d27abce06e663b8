import ServiceDiscovery.Proofs.Telling

/-!
What an announcement comes to. Its client is told once at most: at once if it is refused, else by
the first report on its handle, and by no later one.
-/
namespace ServiceDiscovery

def ReportsPumped : List Deed → Prop :=
  AtEach fun past d => ∀ h r, d.event = .report h r → h ∈ pumps (outputsOf past)

theorem Deed.client?_of_announce {d : Deed} {a : Advertisement} {c : Client} {answer : StartAnswer}
    (he : d.event = .request (.announce a c) answer) : d.client? = some c ∧ d.browses = false := by
  rw [Deed.client?, Deed.browses, he]
  exact ⟨rfl, rfl⟩

theorem Transition.replyTo_of_announce {faults : CloseFaults} {s : Session} {rs : Records}
    {t : Turn} {a : Advertisement} {c : Client} {answer : StartAnswer} {o : Opening}
    (he : Transition faults s rs (.request (.announce a c) answer) t)
    (ho : o ∈ openings t.outputs) :
    o.request.replyTo = .register := by
  cases he with
  | idle _ hos | refused _ hos =>
    rw [hos.openings] at ho
    cases ho
  | announced _ _ _ _ hos | orphaned _ hos =>
    rw [hos.openings] at ho
    rw [List.mem_singleton.mp ho]
    rfl

namespace History
variable {k : History}

theorem registration_of_pumped {o : Opening} (ho : o ∈ openings (outputsOf k.deeds))
    (haddress : o.request.replyTo = .register) (hpumped : o.handle ∈ pumps (outputsOf k.deeds))
    (hopen : o.handle ∉ releases (outputsOf k.deeds)) :
    ∃ g, k.loop.session.registration = some g ∧ g.handle = o.handle := by
  have hheld := (k.ledger.pumped _ hpumped).resolve_right hopen
  simpa only [haddress] using holder ho hheld

theorem move_of_report {d : Deed} {g : Registration} {r : Reply} (hd : d.Follows k.deeds)
    (hg : k.loop.session.registration = some g) (he : d.event = .report g.handle r) :
    ∃ flags code name regtype domain, r = .register flags code name regtype domain ∧
      d.move = .reply .register r := by
  obtain ⟨o, ho, hhandle, -, hfits, hmove⟩ := hd.of_report he
  obtain ⟨a, ha⟩ := k.origins.registration g hg
  have haddress := replyTo_of_stems ho (hhandle ▸ ha)
  rw [haddress] at hfits hmove
  cases r with
  | register flags code name regtype domain => exact ⟨_, _, _, _, _, rfl, hmove⟩
  | _ => cases hfits

theorem report_of_registration {e : Deed} {g : Registration} {r : Reply}
    (hsilent : SilentOnceClosed (k.deeds ++ [e])) (hpumped : ReportsPumped (k.deeds ++ [e]))
    (hfollows : e.Follows k.deeds) (hm : e.move = .reply .register r)
    (hg : k.loop.session.registration = some g) : e.event = .report g.handle r := by
  obtain ⟨o, ho, he, haddress, -⟩ := hfollows.of_reply hm
  obtain ⟨g', hg', hhandle⟩ := registration_of_pumped ho haddress
    ((atEach_concat.mp hpumped).2 _ _ he) ((atEach_concat.mp hsilent).2 _ _ he)
  obtain rfl := Option.some.inj (hg.symm.trans hg')
  exact hhandle ▸ he

/-- A registration is settled once there was a report on its handle. -/
theorem settled_iff_reported (k : History) (hsilent : SilentOnceClosed k.deeds)
    (hpumped : ReportsPumped k.deeds) :
    ∀ g, k.loop.session.registration = some g → (g.settled = true ↔ Reported k.deeds g.handle) := by
  refine invariant (P := fun ds s _ => SilentOnceClosed ds → ReportsPumped ds → ∀ g,
    s.registration = some g → (g.settled = true ↔ Reported ds g.handle)) ?_ ?_ ?_ k hsilent hpumped
  · exact fun _ _ _ _ _ _ g hg => nomatch hg
  · intro k d _ _ hquiet hP _ hsilent hpumped g hg
    rw [hP (atEach_concat.mp hsilent).1 (atEach_concat.mp hpumped).1 g hg, reported_append,
      reported_singleton]
    exact (or_iff_left fun ⟨r, he⟩ => hquiet g.handle r he).symm
  · intro k d t _ hd hP he _ hsilent hpumped g hg
    have hold := hP hsilent.of_append hpumped.of_append
    -- a deed that is no reply to the registration leaves both sides as they were
    have same (hg : k.loop.session.registration = some g)
        (hother : ∀ r, d.move ≠ .reply .register r) :
        g.settled = true ↔ Reported (k.deeds ++ [d]) g.handle := by
      rw [hold g hg, reported_append, reported_singleton]
      refine (or_iff_left fun ⟨r, he⟩ => ?_).symm
      obtain ⟨-, -, -, -, -, -, hmove⟩ := move_of_report hd hg he
      exact hother r hmove
    generalize hm : d.move = m at he same
    cases he with
    | idle hunmoved =>
      by_cases hreply : ∃ r, m = .reply .register r
      · obtain ⟨r, rfl⟩ := hreply
        have hregistered : (k.loop.session.ownRecord k.loop.records).state = .registered := by
          obtain ⟨o, -, -, -, hfits⟩ := hd.of_reply hm
          cases r with
          | register => exact hunmoved g hg
          | _ => cases hfits
        have hsettled := (k.ownApart.settled_iff hg).mpr hregistered
        exact iff_of_true hsettled (reported_append.mpr (.inl ((hold g hg).mp hsettled)))
      · exact same hg fun r hr => hreply ⟨r, hr⟩
    | announced =>
      obtain rfl := Option.some.inj hg
      have hrequest := hd.event_of_request hm
      refine iff_of_false Bool.false_ne_true fun hreported => ?_
      cases reported_append.mp hreported with
      | inl hold => exact hd.fresh_handle hrequest (mem_returned_of_reported hold)
      | inr hnew =>
        obtain ⟨r, he⟩ := reported_singleton.mp hnew
        cases hrequest.symm.trans he
    | confirmed hg₀ =>
      obtain rfl := Option.some.inj hg
      have he := report_of_registration hsilent hpumped hd hm hg₀
      exact iff_of_true rfl (reported_append.mpr (.inr (reported_singleton.mpr ⟨_, he⟩)))
    | lost | lostFaulty => cases hg
    | closed =>
      split at hg
      · cases hg
      · exact same hg fun r hr => nomatch hr
    | _ => exact same hg fun r hr => nomatch hr

theorem client_of_registration {d : Deed} {a : Advertisement} {c : Client} {answer : StartAnswer}
    {o : Opening} {g : Registration} (hd : d ∈ k.deeds)
    (he : d.event = .request (.announce a c) answer) (ho : o ∈ openings d.outputs)
    (hg : k.loop.session.registration = some g) (hhandle : g.handle = o.handle) : g.client = c := by
  obtain ⟨a', d', hd', o', ho', he', hhandle', -⟩ := k.origins.registration g hg
  obtain rfl := opener_unique hd hd' ho ho' (hhandle.symm.trans hhandle'.symm)
  rw [he] at he'
  simp only [Occurrence.request.injEq, Request.announce.injEq] at he'
  exact he'.1.2.symm

theorem replyTo_of_announce {d : Deed} {a : Advertisement} {c : Client} {answer : StartAnswer}
    {o : Opening} (hd : d ∈ k.deeds) (hcall : d.event = .request (.announce a c) answer)
    (ho : o ∈ openings d.outputs) : o.request.replyTo = .register := by
  obtain ⟨k', -, -, hloop, hfollows⟩ := exists_at hd
  obtain ⟨t, he, -, ho⟩ := Deed.turn_of_opening (hloop ▸ k'.sound) ho
  obtain ⟨-, -, -, hmove⟩ := hfollows.of_request hcall
  rw [hmove] at he
  exact he.replyTo_of_announce ho

/-- A report on the handle of an announcement finds its registration, settled or not, and is a reply
to it. -/
theorem registration_at_report {d e : Deed} {a : Advertisement} {c : Client} {answer : StartAnswer}
    {h : Handle} {r : Reply} (hsilent : SilentOnceClosed (k.deeds ++ [e]))
    (hpumped : ReportsPumped (k.deeds ++ [e])) (hfollows : e.Follows k.deeds) (hd : d ∈ k.deeds)
    (hcall : d.event = .request (.announce a c) answer) (hh : h ∈ returned [d])
    (he : e.event = .report h r) :
    ∃ g, k.loop.session.registration = some g ∧ g.client = c ∧ g.handle = h ∧
      (g.settled = true ↔ Reported k.deeds h) ∧
      ∃ flags code name regtype domain, r = .register flags code name regtype domain ∧
        Loop.Takes
          (e.before.session.onRegisterReply e.faults e.before.records code name regtype domain)
          (e.after, e.outputs) := by
  obtain ⟨hsilent, hopen⟩ := atEach_concat.mp hsilent
  obtain ⟨hpumped, hpump⟩ := atEach_concat.mp hpumped
  obtain ⟨o, ho, rfl⟩ := (mem_returned_singleton d).mp hh
  have haddress := replyTo_of_announce hd hcall ho
  obtain ⟨g, hg, hhandle⟩ :=
    registration_of_pumped (mem_openings hd ho) haddress (hpump _ _ he) (hopen _ _ he)
  have hsettled := k.settled_iff_reported hsilent hpumped g hg
  rw [hhandle] at hsettled
  refine ⟨g, hg, client_of_registration hd hcall ho hg hhandle, hhandle, hsettled, ?_⟩
  obtain ⟨o', ho', hsame, hfits, -, htakes⟩ := hfollows.takes_report he
  obtain rfl := opening_unique ho' (mem_openings hd ho) hsame
  rw [haddress] at hfits htakes
  cases r with
  | register flags code name regtype domain => exact ⟨_, _, _, _, _, rfl, htakes⟩
  | _ => cases hfits

end History

def announceOutcome (code : Int) : Notification :=
  if code = ErrorCode.noError then .registered
  else .failed .register (-1) code (ErrorCode.message code) true

namespace Session
variable {faults : CloseFaults} {s : Session} {rs : Records} {g : Registration}

theorem invocation?_onRegisterReply (ho : s.OwnApart rs) (hg : s.registration = some g)
    (hunsettled : g.settled = false) (hfault : faults.escaping g.handle = none) (code : Int)
    (name regtype domain : Option String) :
    (s.onRegisterReply faults rs code name regtype domain).next.invocation? =
      if g.client.wants (announceOutcome code) then some ⟨g.client, announceOutcome code⟩
      else none := by
  by_cases hcode : code = ErrorCode.noError
  · subst hcode
    have hstate : (s.ownRecord rs).state ≠ .registered := by
      rw [Ne, ← ho.settled_iff hg, hunsettled]
      exact Bool.false_ne_true
    obtain ⟨os, hturn, -⟩ := onRegisterReply_confirmed faults hg hstate name regtype domain
    rw [hturn, Next.invocation?_tell]
    rfl
  · obtain ⟨os, hturn, -⟩ := onRegisterReply_lost rs hg hcode hfault name regtype domain
    rw [hturn, hunsettled, if_neg Bool.false_ne_true, Next.invocation?_tell, announceOutcome,
      if_neg hcode]

/-- A settled registration tells nobody; an error ends it and makes the own record as it was
first. -/
theorem onRegisterReply_settled (ho : s.OwnApart rs) (hg : s.registration = some g)
    (hsettled : g.settled = true) (hfault : faults.escaping g.handle = none) (code : Int)
    (name regtype domain : Option String) :
    let t := s.onRegisterReply faults rs code name regtype domain
    t.next.invocation? = none ∧ (code ≠ ErrorCode.noError →
      t.session.registration = none ∧ (t.session.ownRecord t.records).state = .created) := by
  by_cases hcode : code = ErrorCode.noError
  · subst hcode
    rw [onRegisterReply_reconfirmed hg ((ho.settled_iff hg).mp hsettled)]
    exact ⟨rfl, fun hne => absurd rfl hne⟩
  · obtain ⟨os, hturn, -⟩ := onRegisterReply_lost rs hg hcode hfault name regtype domain
    rw [hturn, hsettled, if_pos rfl]
    exact ⟨rfl, fun _ => ⟨rfl, congrArg Record.state (ho.get_modify_own _)⟩⟩

end Session

namespace History
variable {k : History} {past rest : List Deed} {d : Deed} {a : Advertisement} {c : Client}
  {answer : StartAnswer}

theorem told_of_rejected {why : String} (hk : k.deeds = past ++ d :: rest)
    (hcall : d.event = .request (.announce a c) answer) (hopen : d.before.session.closed = false)
    (hpacked : d.before.session.packed d.before.records a = .error why) (hc : c.onError = true) :
    invocations d.outputs = [⟨c, .failed .register (-1) ErrorCode.localError why false⟩] := by
  obtain ⟨k', -, hloop, hfollows⟩ := exists_before hk
  have hstep : (d.after, d.outputs) = d.before.settle _ := hfollows.eq_request hcall
  rw [Session.announce_rejected hopen hpacked] at hstep
  have hinv := (hstep ▸ Loop.takes_settle d.before _).invocations_tell (.notice _) rfl
  exact hinv.trans (if_pos hc)

theorem told_of_refused {txt : Text.Octets} {r : Refusal} (hk : k.deeds = past ++ d :: rest)
    (hcall : d.event = .request (.announce a c) (.refused r))
    (hopen : d.before.session.closed = false)
    (hpacked : d.before.session.packed d.before.records a = .ok txt) (hc : c.onError = true) :
    invocations d.outputs =
      [⟨c, .failed .register (-1) r.code (ErrorCode.message r.code) true⟩] := by
  obtain ⟨k', -, hloop, hfollows⟩ := exists_before hk
  have hstep : (d.after, d.outputs) = d.before.settle _ := hfollows.eq_request hcall
  obtain ⟨os, hturn, hos⟩ := Session.announce_refused (c := c) hopen hpacked r
  rw [hturn] at hstep
  have hinv := (hstep ▸ Loop.takes_settle d.before _).invocations_tell hos rfl
  exact hinv.trans (if_pos hc)

theorem report_of_announce {e : Deed} {h : Handle} {i : Invocation}
    (hsilent : SilentOnceClosed (k.deeds ++ [e])) (hpumped : ReportsPumped (k.deeds ++ [e]))
    (hbefore : e.before = k.loop) (hfollows : e.Follows k.deeds) (hd : d ∈ k.deeds)
    (hcall : d.event = .request (.announce a c) answer) (hh : h ∈ returned [d])
    (hi : i ∈ invocations e.outputs) (hc : i.client = c) : ∃ r, e.event = .report h r := by
  have hclient := Deed.client?_of_announce hcall
  obtain ⟨g, r, hg, rfl, hm⟩ | ⟨id, q, r, hq, rfl, -⟩ :=
    teller hbefore hfollows hd hclient.1 hclient.2 hh hi hc
  · exact ⟨r, report_of_registration hsilent hpumped hfollows hm hg⟩
  · obtain ⟨o, ho, hhandle⟩ := (mem_returned_singleton d).mp hh
    have horigin := k.origins.resolve _ (RequestTable.mem_values_of_get? hq)
    have haddress := replyTo_of_stems (mem_openings hd ho) (hhandle ▸ horigin)
    rw [replyTo_of_announce hd hcall ho] at haddress
    cases haddress

theorem reported_of_told_announce {h : Handle} (hsilent : SilentOnceClosed k.deeds)
    (hpumped : ReportsPumped k.deeds) (hd : d ∈ k.deeds)
    (hcall : d.event = .request (.announce a c) answer) (hh : h ∈ returned [d])
    (htold : told c.ticket k.deeds ≠ []) : Reported k.deeds h := by
  refine reported_of_told hd (Deed.client?_of_announce hcall).1 hh ?_ htold
  intro k' e later hk hbefore hfollows hd i hi hc
  rw [hk] at hsilent hpumped
  exact report_of_announce hsilent.of_append hpumped.of_append hbefore hfollows hd hcall hh hi hc

/-- The first reply on the handle of an announcement tells its client the outcome. -/
theorem told_by_first_report {e : Deed} {h : Handle} {r : Reply}
    (hsilent : SilentOnceClosed (k.deeds ++ [e])) (hpumped : ReportsPumped (k.deeds ++ [e]))
    (hfault : ∀ h, e.faults.escaping h = none) (hbefore : e.before = k.loop)
    (hfollows : e.Follows k.deeds) (hd : d ∈ k.deeds)
    (hcall : d.event = .request (.announce a c) answer) (hh : h ∈ returned [d])
    (he : e.event = .report h r) (hfirst : ¬Reported k.deeds h) :
    ∃ flags code name regtype domain, r = .register flags code name regtype domain ∧
      invocations e.outputs =
        if c.wants (announceOutcome code) then [⟨c, announceOutcome code⟩] else [] := by
  obtain ⟨g, hg, rfl, -, hsettled, flags, code, name, regtype, domain, rfl, htakes⟩ :=
    registration_at_report hsilent hpumped hfollows hd hcall hh he
  refine ⟨flags, code, name, regtype, domain, rfl, ?_⟩
  have hunsettled : g.settled = false := by
    rw [← Bool.not_eq_true, hsettled]
    exact hfirst
  have htold :=
    Session.invocation?_onRegisterReply k.ownApart hg hunsettled (hfault g.handle) code name
    regtype domain
  rw [hbefore] at htakes
  have hinv : invocations e.outputs = _ := htakes.invocations_eq
    (Session.transition_registerReply _ _ flags code name regtype domain)
  rw [hinv, htold]
  split <;> rfl

/-- Later replies on the handle of an announcement tell nobody, and an error ends the
registration. -/
theorem silent_by_later_report {e : Deed} {h : Handle} {flags code : Int}
    {name regtype domain : Option String} (hsilent : SilentOnceClosed (k.deeds ++ [e]))
    (hpumped : ReportsPumped (k.deeds ++ [e])) (hfault : ∀ h, e.faults.escaping h = none)
    (hbefore : e.before = k.loop) (hfollows : e.Follows k.deeds) (hd : d ∈ k.deeds)
    (hcall : d.event = .request (.announce a c) answer) (hh : h ∈ returned [d])
    (he : e.event = .report h (.register flags code name regtype domain))
    (hlater : Reported k.deeds h) :
    invocations e.outputs = [] ∧ (code ≠ ErrorCode.noError → e.after.session.registration = none ∧
      (e.after.session.ownRecord e.after.records).state = .created) := by
  obtain ⟨g, hg, -, -, hsettled, _, _, _, _, _, hr, htakes⟩ :=
    registration_at_report hsilent hpumped hfollows hd hcall hh he
  obtain ⟨rfl, rfl, rfl, rfl, rfl⟩ := Reply.register.inj hr
  rw [hbefore] at htakes
  obtain ⟨htold, hended⟩ := Session.onRegisterReply_settled k.ownApart hg (hsettled.mpr hlater)
    (hfault g.handle) code name regtype domain
  have hinv : invocations e.outputs = _ := htakes.invocations_eq
    (Session.transition_registerReply _ _ flags code name regtype domain)
  have hsession : e.after.session = _ := htakes.session
  have hrecords : e.after.records = _ := htakes.records
  rw [hinv, htold, hsession, hrecords]
  exact ⟨rfl, hended⟩

/-- An announcement is told once at most, with its own data: at once if it is refused; else by the
first reply on its handle, which confirms or fails it, while later replies tell nobody and a later
error makes the own record as it was first. -/
theorem announcement_told_once (k : History) (hsilent : SilentOnceClosed k.deeds)
    (hpumped : ReportsPumped k.deeds) (hfaults : OnlySystemFaults k.deeds)
    {past rest : List Deed} {d : Deed} {a : Advertisement} {c : Client} {answer : StartAnswer}
    (hk : k.deeds = past ++ d :: rest) (hcall : d.event = .request (.announce a c) answer) :
    (told c.ticket k.deeds).length ≤ 1 ∧ (∀ i ∈ told c.ticket k.deeds, i.client = c) ∧
    (d.before.session.closed = false → c.onError = true →
      (∀ why, d.before.session.packed d.before.records a = .error why →
        told c.ticket k.deeds = [⟨c, .failed .register (-1) ErrorCode.localError why false⟩]) ∧
      ∀ txt r, d.before.session.packed d.before.records a = .ok txt → answer = .refused r →
        told c.ticket k.deeds =
          [⟨c, .failed .register (-1) r.code (ErrorCode.message r.code) true⟩]) ∧
    ∀ h ∈ returned [d], (¬Reported k.deeds h → told c.ticket k.deeds = []) ∧
      ∀ mid e later r, rest = mid ++ e :: later → e.event = .report h r → ¬Reported mid h →
        (∃ flags code name regtype domain, r = .register flags code name regtype domain ∧
          told c.ticket (past ++ d :: mid) = [] ∧
          invocations e.outputs =
            if c.wants (announceOutcome code) then [⟨c, announceOutcome code⟩] else []) ∧
        ∀ mid' e' later' flags code name regtype domain, later = mid' ++ e' :: later' →
          e'.event = .report h (.register flags code name regtype domain) →
          invocations e'.outputs = [] ∧ (code ≠ ErrorCode.noError →
            e'.after.session.registration = none ∧
            (e'.after.session.ownRecord e'.after.records).state = .created) := by
  have hd : d ∈ k.deeds := by simp [hk]
  obtain ⟨hclient, hbrowse⟩ := Deed.client?_of_announce hcall
  obtain ⟨honce, hwho⟩ := told_once hd hclient hbrowse
  refine ⟨honce, hwho, ?_, ?_⟩
  · intro hopen hc
    refine ⟨fun why hpacked => ?_, fun txt r hpacked hanswer => ?_⟩
    · exact told_eq_singleton hd hclient hbrowse hd (told_of_rejected hk hcall hopen hpacked hc)
    · subst hanswer
      exact told_eq_singleton hd hclient hbrowse hd (told_of_refused hk hcall hopen hpacked hc)
  intro h hh
  refine ⟨fun hnone => of_not_not fun htold => hnone
    (reported_of_told_announce hsilent hpumped hd hcall hh htold), ?_⟩
  intro mid e later r hrest he hfirst
  subst hrest
  have hfault : ∀ e ∈ k.deeds, ∀ h, e.faults.escaping h = none := by
    intro e he
    obtain ⟨past, rest, hk⟩ := List.append_of_mem he
    exact CloseFaults.escaping_eq_none (hfaults past e rest hk)
  constructor
  · have hk : k.deeds = (past ++ d :: mid) ++ e :: later := by simp [hk]
    have hfirst : ¬Reported (past ++ d :: mid) h := not_reported_of_call hk hh hfirst
    have he' : e ∈ k.deeds := by simp [hk]
    obtain ⟨k', hk', hloop, hfollows⟩ := exists_before hk
    have hk : k.deeds = (past ++ d :: mid ++ [e]) ++ later := by simp [hk]
    rw [hk] at hsilent hpumped
    rw [← hk'] at hsilent hpumped hfollows hfirst ⊢
    have hd : d ∈ k'.deeds := by simp [hk']
    obtain ⟨flags, code, name, regtype, domain, hr, hinv⟩ := told_by_first_report hsilent.of_append
      hpumped.of_append (hfault e he') hloop.symm hfollows hd hcall hh he hfirst
    refine ⟨flags, code, name, regtype, domain, hr, of_not_not fun htold => hfirst ?_, hinv⟩
    exact reported_of_told_announce hsilent.of_append.of_append hpumped.of_append.of_append hd
      hcall hh htold
  · rintro mid' e' later' flags code name regtype domain rfl he'
    have hk : k.deeds = (past ++ d :: mid ++ e :: mid') ++ e' :: later' := by simp [hk]
    obtain ⟨k', hk', hloop, hfollows⟩ := exists_before hk
    have hlater : Reported k'.deeds h := ⟨e, by simp [hk'], r, he⟩
    have hmem : e' ∈ k.deeds := by simp [hk]
    have hk : k.deeds = (k'.deeds ++ [e']) ++ later' := by simp [hk, hk']
    rw [hk] at hsilent hpumped
    rw [← hk'] at hfollows
    exact silent_by_later_report hsilent.of_append hpumped.of_append (hfault e' hmem)
      hloop.symm hfollows
      (by simp [hk']) hcall hh he' hlater

def announced : History :=
  (start "A" {} false {}).add {}
    (.request (.announce { port := 9, namePrefix := "/a" } { ticket := 1 }) (.started 1 10))

def confirmedThenLost : History :=
  ((((announced.add {} (.request (.run 5) (.raised (.closed "")))).add {}
    (.waited [10] none)).add {} (.report 1 (.register 0 0 none none none))).add {}
    (.finish false)).add {} (.report 1 (.register 0 (-65563) none none none))

theorem announcement_told_once_confirmedThenLost :
    (told 1 confirmedThenLost.deeds).map (·.what) = [.registered] ∧
    (confirmedThenLost.loop.session.ownRecord confirmedThenLost.loop.records).state = .created ∧
    (told 1 confirmedThenLost.deeds).length ≤ 1 ∧
    ∀ i ∈ told 1 confirmedThenLost.deeds, i.client = { ticket := 1 } := by
  have hsilent : SilentOnceClosed confirmedThenLost.deeds := by
    refine atEach_add
      (atEach_add (atEach_add (atEach_add (atEach_add (atEach_add (atEach_start _ _ _ _)
      ?_) ?_) ?_) ?_) ?_) ?_ <;> rintro m - h r ⟨⟩ <;> decide +kernel
  have hpumped : ReportsPumped confirmedThenLost.deeds := by
    refine atEach_add
      (atEach_add (atEach_add (atEach_add (atEach_add (atEach_add (atEach_start _ _ _ _)
      ?_) ?_) ?_) ?_) ?_) ?_ <;> rintro m - h r ⟨⟩ <;> decide +kernel
  have hfaults : OnlySystemFaults confirmedThenLost.deeds := by
    refine atEach_add
      (atEach_add (atEach_add (atEach_add (atEach_add (atEach_add (atEach_start _ _ _ _)
      ?_) ?_) ?_) ?_) ?_) ?_ <;> exact fun m hm h f hf => nomatch hf
  obtain ⟨d, hd, hcall, -⟩ := exists_deed (start "A" {} false {}) {}
    (.request (.announce { port := 9, namePrefix := "/a" } { ticket := 1 }) (.started 1 10))
    (by decide +kernel)
  have hprefix : announced.deeds <+: confirmedThenLost.deeds :=
    (((((deeds_le_add _ _ _).trans (deeds_le_add _ _ _)).trans (deeds_le_add _ _ _)).trans
      (deeds_le_add _ _ _)).trans (deeds_le_add _ _ _))
  obtain ⟨rest, hrest⟩ := hprefix
  have hk : confirmedThenLost.deeds = [] ++ d :: rest := by
    rw [← hrest, announced, hd]
    rfl
  obtain ⟨hone, hclient, -⟩ :=
    confirmedThenLost.announcement_told_once hsilent hpumped hfaults hk hcall
  exact ⟨by decide +kernel, by decide +kernel, hone, hclient⟩

end History
end ServiceDiscovery
