import ServiceDiscovery.Proofs.RemoteRecords
import ServiceDiscovery.Proofs.Resolving
import ServiceDiscovery.Proofs.Searching

/-!
Where others are to be found. A record that was announced is discovered until a resolve of it
succeeds; from then on it shows what the latest success said, and who it is about never changes.
-/
namespace ServiceDiscovery

structure Location where
  port : Int := 0
  namePrefix : String := ""
  certificate : Text.Octets := []
  hostname : String := ""
  fullname : String := ""
  deriving DecidableEq, Repr

namespace Record

def location (r : Record) : Location :=
  ⟨r.shown.port, r.shown.namePrefix, r.shown.certificate, r.shown.hostname, r.shown.fullname⟩

def learn (r : Record) : Option Location → Record
  | some l =>
    Session.located (some l.fullname) (some l.hostname) l.port l.namePrefix l.certificate r
  | none => r

/-- Nothing became known of the instance and it is only discovered, or the record shows what became
known last. -/
structure Knows (r : Record) (ls : List Location) : Prop where
  state : r.state = if ls = [] then .discovered else .resolved
  location : r.location = ls.getLast?.getD {}

theorem Knows.learn {r : Record} {ls : List Location} (h : r.Knows ls) (o : Option Location) :
    (r.learn o).Knows (ls ++ o.toList) := by
  cases o with
  | none => simpa [Record.learn] using h
  | some l =>
    constructor
    · simp [Record.learn, Session.located]
    · simp [Record.learn, Session.located, Record.location, shown, ServiceState.hasPayload]

theorem Knows.resolved_iff {r : Record} {ls : List Location} (h : r.Knows ls) :
    r.state = .resolved ↔ ls ≠ [] := by
  rw [h.state]
  split <;> simp_all

theorem Knows.cases {r : Record} {ls : List Location} (h : r.Knows ls) :
    ls = [] ∧ r.state = .discovered ∧ r.location = {} ∨
      ∃ earlier latest, ls = earlier ++ [latest] ∧ r.state = .resolved ∧ r.location = latest := by
  obtain rfl | ⟨earlier, latest, rfl⟩ := List.eq_nil_or_concat ls
  · exact .inl ⟨rfl, h.state, h.location⟩
  · rw [List.concat_eq_append] at h ⊢
    exact .inr ⟨earlier, latest, rfl, h.resolved_iff.mpr (by simp), by simp [h.location]⟩

end Record

def Reply.location? : Reply → Option Location
  | .resolve _ _ code fullname hostTarget port txt =>
    if code = ErrorCode.noError ∧ Txt.prefixOf txt ≠ "" then
      some ⟨port, Txt.prefixOf txt, Txt.certificateOf txt, hostTarget.getD "", fullname.getD ""⟩
    else none
  | _ => none

theorem Reply.namePrefix_of_location? {r : Reply} {l : Location} (h : r.location? = some l) :
    l.namePrefix ≠ "" := by
  unfold location? at h
  split at h
  · split at h
    · rename_i hgood
      obtain rfl := Option.some.inj h
      exact hgood.2
    · cases h
  · cases h

namespace Session
variable {s : Session} {rs : Records} {m : Move} {i : RecordId}

def answered? (s : Session) : Move → Option (ResolveRequest × Reply)
  | .reply (.resolve id) r => (s.registry.resolves.get? id).map (·, r)
  | _ => none

def location? (s : Session) (i : RecordId) (m : Move) : Option Location :=
  (s.answered? m).bind fun a => if a.1.target = i then a.2.location? else none

theorem answered?_eq_some {q : ResolveRequest} {r : Reply} (h : s.answered? m = some (q, r)) :
    ∃ id, m = .reply (.resolve id) r ∧ s.registry.resolves.get? id = some q := by
  unfold answered? at h
  split at h
  · obtain ⟨q', hq', heq⟩ := Option.map_eq_some_iff.mp h
    obtain ⟨rfl, rfl⟩ := Prod.mk.inj heq
    exact ⟨_, rfl, hq'⟩
  · cases h

theorem location?_eq_some_iff {l : Location} : s.location? i m = some l ↔
    ∃ q r, s.answered? m = some (q, r) ∧ q.target = i ∧ r.location? = some l := by
  rw [location?, Option.bind_eq_some_iff]
  constructor
  · rintro ⟨⟨q, r⟩, hanswered, h⟩
    split at h
    · exact ⟨q, r, hanswered, ‹_›, h⟩
    · cases h
  · rintro ⟨q, r, hanswered, htarget, h⟩
    exact ⟨(q, r), hanswered, by rw [if_pos htarget, h]⟩

theorem mem_held_of_resolve {q : ResolveRequest} (hq : q ∈ s.registry.resolves.values) :
    q.handle ∈ s.held := by
  simp only [held, List.mem_append]
  exact .inl (.inr (List.mem_map_of_mem hq))

theorem location?_of_unmoved (hm : s.Unmoved rs m) : s.location? i m = none := by
  rw [Option.eq_none_iff_forall_ne_some]
  intro l hl
  obtain ⟨q, r, hanswered, -, hr⟩ := location?_eq_some_iff.mp hl
  obtain ⟨id, rfl, hq⟩ := answered?_eq_some hanswered
  cases r with
  | resolve => cases hq.symm.trans hm
  | _ => cases hr

theorem get?_settlement {r : Record} (hr : rs.get? i = some r) (q : ResolveRequest)
    (flags interfaceIndex code : Int) (fullname hostTarget : Option String) (port : Int)
    (txt : Text.Octets) :
    (settlement rs q code fullname hostTarget port txt).1.get? i =
      some (r.learn (if q.target = i then
      (Reply.resolve flags interfaceIndex code fullname hostTarget port txt).location?
      else none)) := by
  rw [settlement_eq]
  by_cases hgood : code = ErrorCode.noError ∧ Txt.prefixOf txt ≠ ""
  · by_cases htarget : q.target = i
    · subst htarget
      simp only [if_pos hgood, if_true, Reply.location?, Records.get?_modify_self, hr,
        Option.map_some]
      rfl
    · simp only [if_pos hgood, if_neg htarget, Records.get?_modify_of_ne rs _ htarget, hr,
        Record.learn]
  · simp only [if_neg hgood, Reply.location?, ite_self, hr, Record.learn]

end Session

namespace Transition
variable {faults : CloseFaults} {s : Session} {rs : Records} {m : Move} {t : Turn} {i : RecordId}

theorem get?_learn (he : Transition faults s rs m t) (hfault : ∀ h, faults.escaping h = none)
    (hi : i ≠ s.own) {r : Record} (hr : rs.get? i = some r) :
    t.records.get? i = some (r.learn (s.location? i m)) := by
  cases he with
  | idle hm =>
    rw [Session.location?_of_unmoved hm]
    exact hr
  | announced | confirmed | lost => exact (Records.get?_modify_of_ne rs _ hi.symm).trans hr
  | appeared => exact (Records.get?_add_of_isSome (by simp [hr]) _).trans hr
  | @answered q id flags interfaceIndex code fullname hostTarget port txt os hq =>
    simp only [Session.location?, Session.answered?, hq, Option.map_some, Option.bind_some]
    exact Session.get?_settlement hr q flags interfaceIndex code fullname hostTarget port txt
  | answeredFaulty _ hescapes => cases (hfault _).symm.trans hescapes
  | closed =>
    dsimp only
    split
    · exact (Records.get?_modify_of_ne rs _ hi.symm).trans hr
    · exact hr
  | _ => exact hr

/-- A record that there was not is one of an instance that was just discovered. -/
theorem knows_of_new (he : Transition faults s rs m t) (hnone : rs.get? i = none) {r : Record}
    (hr : t.records.get? i = some r) : r.Knows [] := by
  have hmodify (j : RecordId) (f : Record → Record) : (rs.modify j f).get? i ≠ some r := by
    intro h
    have hsome : ((rs.modify j f).get? i).isSome = (rs.get? i).isSome :=
      Records.isSome_get?_modify f
    simp [h, hnone] at hsome
  cases he with
  | announced | confirmed | lost => exact absurd hr (hmodify _ _)
  | @appeared q _ _ interfaceIndex name regtype domain transport =>
    have hnew : i = rs.nextId := by
      have hlt := Records.lt_nextId_of_isSome (Option.isSome_iff_exists.mpr ⟨r, hr⟩)
      have hge : rs.nextId ≤ i := by simpa [Records.get?, Records.nextId] using hnone
      simp only [Records.add, Records.nextId, List.length_append, List.length_singleton]
        at hlt hge ⊢
      exact Nat.le_antisymm (Nat.le_of_lt_succ hlt) hge
    subst hnew
    rw [Records.get?_add_self] at hr
    obtain rfl := Option.some.inj hr
    exact ⟨rfl, rfl⟩
  | @answered q _ _ _ code fullname hostTarget port txt =>
    obtain ⟨f, hf⟩ := Session.settlement_fst rs q code fullname hostTarget port txt
    rw [hf] at hr
    exact absurd hr (hmodify _ _)
  | closed =>
    dsimp only at hr
    split at hr
    · exact absurd hr (hmodify _ _)
    · cases hnone.symm.trans hr
  | _ => cases hnone.symm.trans hr

end Transition

def Deed.location? (i : RecordId) (d : Deed) : Option Location :=
  d.before.session.location? i d.move

def locations (i : RecordId) (ds : List Deed) : List Location := ds.filterMap (Deed.location? i)

theorem locations_concat (i : RecordId) (ds : List Deed) (d : Deed) :
    locations i (ds ++ [d]) = locations i ds ++ (d.location? i).toList := by
  cases h : d.location? i <;> simp [locations, h]

theorem namePrefix_of_mem_locations {i : RecordId} {ds : List Deed} {l : Location}
    (hl : l ∈ locations i ds) : l.namePrefix ≠ "" := by
  obtain ⟨d, -, hd⟩ := List.mem_filterMap.mp hl
  obtain ⟨q, r, -, -, hr⟩ := Session.location?_eq_some_iff.mp hd
  exact Reply.namePrefix_of_location? hr

/-- Every record of another is as the answers to its resolves say, and these are about stored
records. -/
structure Known (ds : List Deed) (s : Session) (rs : Records) : Prop where
  stored : ∀ i, locations i ds ≠ [] → (rs.get? i).isSome
  knows : ∀ i r, s.own < i → rs.get? i = some r → r.Knows (locations i ds)

def Deed.Answers (d : Deed) (h : Handle) : Prop :=
  ∃ q r, d.before.session.answered? d.move = some (q, r) ∧ q.handle = h

def FirstSuccess (past : List Deed) (e : Deed) (i : RecordId) (l : Location) : Prop :=
  ∃ d ∈ past, ∃ c answer h r, d.event = .request (.resolve i c) answer ∧ h ∈ returned [d] ∧
    e.event = .report h r ∧ ¬Reported past h ∧ e.before.session.closed = false ∧
      r.location? = some l

namespace History
variable {k : History} {e : Deed} {i : RecordId} {l : Location}

theorem others_of_location? (hbefore : e.before = k.loop) (hl : e.location? i = some l) :
    k.loop.session.Others k.loop.records i := by
  rw [Deed.location?, hbefore] at hl
  obtain ⟨q, r, hanswered, rfl, -⟩ := Session.location?_eq_some_iff.mp hl
  obtain ⟨id, -, hq⟩ := Session.answered?_eq_some hanswered
  exact k.remote.targeted q (RequestTable.mem_values_of_get? hq)

theorem location?_of_unreported (hfollows : e.Follows k.deeds)
    (hquiet : ∀ h r, e.event ≠ .report h r) : e.location? i = none := by
  rw [Option.eq_none_iff_forall_ne_some]
  intro l hl
  obtain ⟨q, r, hanswered, -, -⟩ := Session.location?_eq_some_iff.mp hl
  obtain ⟨id, hm, -⟩ := Session.answered?_eq_some hanswered
  obtain ⟨o, -, he, -⟩ := hfollows.of_reply hm
  exact hquiet _ _ he

/-- A turn keeps what is known of the records of others, with what it makes known itself. -/
theorem known_turn {t : Turn} (hbefore : e.before = k.loop)
    (hknown : Known k.deeds k.loop.session k.loop.records)
    (he : Transition e.faults k.loop.session k.loop.records e.move t)
    (hfault : ∀ h, e.faults.escaping h = none) : Known (k.deeds ++ [e]) t.session t.records := by
  constructor
  · intro i hne
    rw [locations_concat] at hne
    refine he.named.stored i ?_
    cases hl : e.location? i with
    | some l => exact (others_of_location? hbefore hl).2
    | none => exact hknown.stored i (by simpa [hl] using hne)
  · intro i r hi hr
    rw [he.own_eq] at hi
    rw [locations_concat]
    cases hold : k.loop.records.get? i with
    | some r' =>
      have hnow := he.get?_learn hfault (Nat.ne_of_gt hi) hold
      rw [hnow] at hr
      obtain rfl := Option.some.inj hr
      rw [Deed.location?, hbefore]
      exact (hknown.knows i r' hi hold).learn _
    | none =>
      -- nothing can have become known of a record that there was not
      have hnothing : locations i k.deeds = [] := by
        by_contra hne
        simpa [hold] using hknown.stored i hne
      have hnone : e.location? i = none := by
        rw [Option.eq_none_iff_forall_ne_some]
        intro l hl
        simpa [hold] using (others_of_location? hbefore hl).2
      rw [hnothing, hnone]
      exact he.knows_of_new hold hr

theorem known (k : History) (hfaults : OnlySystemFaults k.deeds) :
    Known k.deeds k.loop.session k.loop.records := by
  refine invariant (P := fun ds s rs => OnlySystemFaults ds → Known ds s rs) ?_ ?_ ?_ k hfaults
  · intro uuid codec ownsProvider records _
    refine ⟨fun i hne => absurd rfl hne, fun i r hi hr => ?_⟩
    exact absurd ⟨hi, Option.isSome_iff_exists.mpr ⟨r, hr⟩⟩ (Loop.not_others_start _ _ _ _ i)
  · intro k d hbefore hd hquiet hP _ hfaults
    have hsame (i : RecordId) : locations i (k.deeds ++ [d]) = locations i k.deeds := by
      rw [locations_concat, location?_of_unreported hd hquiet, Option.toList_none, List.append_nil]
    obtain ⟨hstored, hknows⟩ := hP hfaults.of_append
    exact ⟨fun i => hsame i ▸ hstored i, fun i => hsame i ▸ hknows i⟩
  · intro k d t hbefore _ hP he _ hfaults
    obtain ⟨hfaults, hsystem⟩ := atEach_concat.mp hfaults
    exact known_turn hbefore (hP hfaults) he (CloseFaults.escaping_eq_none hsystem)

theorem called_of_answered {q : ResolveRequest} {r : Reply} (hbefore : e.before = k.loop)
    (hanswered : e.before.session.answered? e.move = some (q, r)) :
    (∃ d ∈ k.deeds, ∃ c answer, d.event = .request (.resolve q.target c) answer ∧
      q.handle ∈ returned [d]) ∧
      ∀ e' ∈ k.deeds, ¬e'.Answers q.handle := by
  obtain ⟨id, -, hq⟩ := Session.answered?_eq_some hanswered
  rw [hbefore] at hq
  have hlive := RequestTable.mem_values_of_get? hq
  constructor
  · obtain ⟨d, hd, o, ho, hcall, hhandle, -⟩ := k.origins.resolve q hlive
    exact ⟨d, hd, q.client, _, hcall, (mem_returned_singleton d).mpr ⟨o, ho, hhandle⟩⟩
  · -- a request that takes a reply goes, and its handle is closed for good
    rintro e' he' ⟨q', r', hanswered', hhandle⟩
    obtain ⟨id', hm, hq'⟩ := Session.answered?_eq_some hanswered'
    obtain ⟨k', rest, hk, -, hfollows⟩ := exists_at he'
    obtain ⟨o, -, hreport, haddress, hfits⟩ := hfollows.of_reply hm
    obtain ⟨o', -, -, -, hmove, htakes⟩ := hfollows.takes_report hreport
    have hreplyTo : o'.request.replyTo = .resolve id' := (Move.reply.inj (hmove.symm.trans hm)).1
    rw [hreplyTo] at htakes
    have hclosed : q.handle ∈ releases (outputsOf k.deeds) := by
      cases r' with
      | resolve =>
        have hreleases : releases e'.outputs = _ := htakes.releases
        rw [(Session.transition_reply _ _ _ _).releases_of_resolveReply hq', hhandle] at hreleases
        simp [hk, outputsOf, hreleases]
      | _ => cases hfits
    exact k.ledger.unreleased q.handle (Session.mem_held_of_resolve hlive) hclosed

/-- If no reply is stale, what becomes known is what the first reports on the handles of resolves
say. -/
theorem location?_eq_some_iff_firstSuccess (hstale : NoStaleReply (k.deeds ++ [e]))
    (hbefore : e.before = k.loop) (hfollows : e.Follows k.deeds) :
    e.location? i = some l ↔ FirstSuccess k.deeds e i l := by
  rw [Deed.location?, Session.location?_eq_some_iff]
  constructor
  · rintro ⟨q, r, hanswered, rfl, hr⟩
    obtain ⟨⟨d, hd, c, answer, hcall, hh⟩, -⟩ := called_of_answered hbefore hanswered
    obtain ⟨id, hm, hq⟩ := Session.answered?_eq_some hanswered
    rw [hbefore] at hq
    have hheld := Session.mem_held_of_resolve (RequestTable.mem_values_of_get? hq)
    refine ⟨d, hd, c, answer, q.handle, r, hcall, hh,
      report_of_live hstale hbefore hfollows hm hq, ?_, ?_, hr⟩
    · intro hreported
      obtain ⟨o, ho, hhandle⟩ := (mem_returned_singleton d).mp hh
      refine k.ledger.unreleased _ hheld ?_
      rw [← hhandle] at hreported ⊢
      exact k.released_of_reported o (mem_openings hd ho) (replyTo_of_resolve hd hcall ho) hreported
    · rw [hbefore, ← Bool.not_eq_true]
      intro hclosed
      rw [(k.ledger.shut hclosed).1] at hheld
      cases hheld
  · rintro ⟨d, hd, c, answer, h, r, hcall, hh, he, hfirst, hopen, hr⟩
    obtain ⟨id, browseId, haddress, hq⟩ :=
      unanswered_live hstale.of_append hd hcall hh hfirst (hbefore ▸ hopen)
    obtain ⟨o, ho, hhandle, -, hmove, -⟩ := hfollows.takes_report he
    rw [haddress o ho hhandle] at hmove
    exact ⟨⟨id, h, i, browseId, c⟩, r, by simp only [hmove, Session.answered?, hbefore, hq,
      Option.map_some], rfl, hr⟩

/-- Whatever happens later, the records of others show the instances that they showed. -/
theorem finding_run {past rest : List Deed} (hk : k.deeds = past ++ e :: rest) {f : Finding}
    (hi : e.after.session.own < i) (hf : e.after.records.finding? i = some f) :
    k.loop.records.finding? i = some f := by
  suffices hlater : k.loop.session.own < i ∧ k.loop.records.finding? i = some f from hlater.2
  refine induction (P := fun ds l => AtEach (fun _ e => e.after.session.own < i →
    e.after.records.finding? i = some f → l.session.own < i ∧ l.records.finding? i = some f) ds)
    ?_ ?_ k past e rest hk hi hf
  · exact fun _ _ _ _ => atEach_nil
  · intro k d hbefore _ hold
    refine atEach_concat.mpr ⟨fun past e rest hds hi hf => ?_, fun hi hf => ⟨hi, hf⟩⟩
    obtain ⟨hi, hf⟩ := hold past e rest hds hi hf
    refine ⟨?_, keeps_finding hbefore (Nat.ne_of_gt hi) hf⟩
    rw [← hbefore] at hi
    obtain hkeeps | ⟨t, he, ht⟩ := Loop.step_cases (hbefore ▸ k.sound) d.faults d.move
    · have hsession : d.after.session = d.before.session := hkeeps.session
      rwa [hsession]
    · have hsession : d.after.session = t.session := ht.session
      rwa [hsession, he.own_eq]

theorem announced_knows (k : History) (hfaults : OnlySystemFaults k.deeds) {ticket : Nat}
    {x : Sighting} (hx : x ∈ announcements ticket k.deeds) :
    ∃ r, k.loop.records.get? x.record = some r ∧
      r.Knows (locations x.record k.deeds) ∧ k.loop.records.finding? x.record = some r.finding := by
  obtain ⟨hlater, hstored⟩ := k.announced_others ticket x hx
  obtain ⟨r, hr⟩ := Option.isSome_iff_exists.mp hstored
  have hknows := (k.known hfaults).knows _ r hlater hr
  refine ⟨r, hr, hknows, ?_⟩
  have hstate : r.state ≠ .created := by
    rw [hknows.state]
    split <;> simp
  rw [Records.finding?, hr, Option.bind_some, if_neg hstate]

/-- The record of an instance that was ever announced is discovered, and shows nothing of where it
is, until a resolve of it succeeds. From then on it is resolved and shows what the latest success
said, with a name prefix that is not empty. It goes on to show the instance that it showed when it
was announced. A success is an answer that a resolve call of this record takes, which takes no other
one; without stale replies these are just the first reports on the handles of such calls. -/
theorem remote_record_life (k : History) (hfaults : OnlySystemFaults k.deeds) {ticket : Nat}
    {x : Sighting} (hx : x ∈ announcements ticket k.deeds) :
    (∃ r, k.loop.records.get? x.record = some r ∧
      (locations x.record k.deeds = [] ∧ r.state = .discovered ∧ r.location = {} ∨
        ∃ earlier latest, locations x.record k.deeds = earlier ++ [latest] ∧ r.state = .resolved ∧
          r.location = latest ∧ latest.namePrefix ≠ "")) ∧
    (∀ past e rest, k.deeds = past ++ e :: rest → x ∈ announcements ticket (past ++ [e]) →
      (∃ f, e.after.records.finding? x.record = some f ∧
        k.loop.records.finding? x.record = some f) ∧
      ((e.after.records.get x.record).state = .resolved →
        (k.loop.records.get x.record).state = .resolved)) ∧
    ∀ past e rest l, k.deeds = past ++ e :: rest →
      (e.location? x.record = some l → ∃ d ∈ past, ∃ c answer, ∃ h ∈ returned [d],
        d.event = .request (.resolve x.record c) answer ∧ e.Answers h ∧
        ∀ e' ∈ past, ¬e'.Answers h) ∧
      (NoStaleReply k.deeds →
        (e.location? x.record = some l ↔ FirstSuccess past e x.record l)) := by
  refine ⟨?_, fun past e rest hk hx' => ?_,
    fun past e rest l hk => ⟨fun hl => ?_, fun hstale => ?_⟩⟩
  · obtain ⟨r, hr, hknows, -⟩ := k.announced_knows hfaults hx
    refine ⟨r, hr, hknows.cases.imp_right ?_⟩
    rintro ⟨earlier, latest, hlast, hresolved, hlocation⟩
    exact ⟨earlier, latest, hlast, hresolved, hlocation,
      namePrefix_of_mem_locations (by rw [hlast]; simp)⟩
  · obtain ⟨k₀, rfl, hloop, hfollows⟩ := exists_before hk
    obtain ⟨k', hdeeds, hafter⟩ := exists_after hloop.symm hfollows
    have hk' : k.deeds = k'.deeds ++ rest := by simp [hk, hdeeds]
    rw [← hdeeds] at hx'
    obtain ⟨r', hr', hknows', hf'⟩ := k'.announced_knows ((hk' ▸ hfaults).of_append) hx'
    obtain ⟨r, hr, hknows, -⟩ := k.announced_knows hfaults hx
    have hlater := (k'.announced_others ticket x hx').1
    rw [hafter] at hr' hf' hlater
    refine ⟨⟨r'.finding, hf', finding_run hk hlater hf'⟩, fun hstate => ?_⟩
    rw [Records.get, hr', Option.getD_some, hknows'.resolved_iff] at hstate
    rw [Records.get, hr, Option.getD_some, hknows.resolved_iff, hk', locations,
      List.filterMap_append]
    exact List.append_ne_nil_of_left_ne_nil hstate _
  · obtain ⟨k', rfl, hloop, hfollows⟩ := exists_before hk
    obtain ⟨q, r, hanswered, htarget, -⟩ := Session.location?_eq_some_iff.mp hl
    obtain ⟨⟨d, hd, c, answer, hcall, hh⟩, hfirst⟩ := called_of_answered hloop.symm hanswered
    exact ⟨d, hd, c, answer, q.handle, hh, htarget ▸ hcall, ⟨q, r, hanswered, rfl⟩, hfirst⟩
  · obtain ⟨k', rfl, hloop, hfollows⟩ := exists_before hk
    have hk : k.deeds = (k'.deeds ++ [e]) ++ rest := by simp [hk]
    exact location?_eq_some_iff_firstSuccess (hk ▸ hstale).of_append hloop.symm hfollows

def relocated : History :=
  let sees (flags : Int) : Occurrence :=
    .report 1 (.browse flags 0 0 "B" (some "_ndn._udp.") (some "local."))
  browsed.adds [sees 2, .finish false, .request (.resolve 1 { ticket := 2 }) (.started 2 11),
    .report 2 (.resolve 0 0 0 (some "f") (some "h") 1 [4, 0x70, 0x3d, 0x2f, 0x31]), .finish false,
    .request (.resolve 1 { ticket := 3 }) (.started 3 12),
    .report 3 (.resolve 0 0 (-65537) none none 0 []), .finish false, sees 0, .finish false, sees 2]

theorem remote_record_life_relocated :
    announcements 1 relocated.deeds = [.added 1, .removed 1, .added 2] ∧
    (∃ r, relocated.loop.records.get? 1 = some r ∧ r.state = .resolved ∧
      r.location = ⟨1, "/1", [], "h", "f"⟩) ∧
    ∃ r, relocated.loop.records.get? 2 = some r ∧ r.state = .discovered ∧ r.location = {} := by
  have hsaid : announcements 1 relocated.deeds = [.added 1, .removed 1, .added 2] := by
    decide +kernel
  have hfaults : OnlySystemFaults relocated.deeds := by
    iterate 12 refine onlySystemFaults_add ?_
    exact atEach_start _ _ _ _
  have hfirst : locations 1 relocated.deeds = [⟨1, "/1", [], "h", "f"⟩] := by decide +kernel
  have hsecond : locations 2 relocated.deeds = [] := by decide +kernel
  have hx₁ : .added 1 ∈ announcements 1 relocated.deeds := by simp [hsaid]
  have hx₂ : .added 2 ∈ announcements 1 relocated.deeds := by simp [hsaid]
  obtain ⟨⟨r₁, hr₁, hlife₁⟩, -⟩ := relocated.remote_record_life hfaults hx₁
  obtain ⟨⟨r₂, hr₂, hlife₂⟩, -⟩ := relocated.remote_record_life hfaults hx₂
  simp only [Sighting.record, hfirst, hsecond] at hlife₁ hlife₂
  refine ⟨hsaid, ⟨r₁, hr₁, ?_⟩, ⟨r₂, hr₂, ?_⟩⟩
  · obtain ⟨hnil, -⟩ | ⟨earlier, latest, hlast, hstate, hlocation, -⟩ := hlife₁
    · cases hnil
    · have hlatest : latest = ⟨1, "/1", [], "h", "f"⟩ := by
        simpa using (congrArg List.getLast? hlast).symm
      exact ⟨hstate, hlocation.trans hlatest⟩
  · obtain ⟨-, hstate, hlocation⟩ | ⟨earlier, latest, hlast, -⟩ := hlife₂
    · exact ⟨hstate, hlocation⟩
    · simp at hlast

end History
end ServiceDiscovery
