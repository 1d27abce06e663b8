import ServiceDiscovery.Proofs.Reports

/-!
What a browse finds and tells, by the reports on its handle. Neither the requests beside it nor the
time at which a report is pumped matter: what it has found and what it has told about it is a
function of its reports.
-/
namespace ServiceDiscovery

structure Finding where
  name : String
  transport : Transport
  interfaceIndex : Int
  subtype : String
  regtype : String
  domain : String
  deriving DecidableEq, Repr

def Record.finding (r : Record) : Finding :=
  ⟨r.shown.uuid, r.shown.transport, r.shown.interfaceIndex, r.shown.subtype, r.shown.regtype,
    r.shown.domain⟩

def Records.finding? (rs : Records) (i : RecordId) : Option Finding :=
  (rs.get? i).bind fun r => if r.state = .created then none else some r.finding

inductive Tiding
  | came (f : Finding)
  | went (f : Finding)
  | failed (code : Int) (message : String) (transient : Bool)
  deriving DecidableEq, Repr

def Notification.tiding? (rs : Records) : Notification → Option Tiding
  | .added _ i => (rs.finding? i).map .came
  | .removed _ i => (rs.finding? i).map .went
  | .failed .browse _ code message transient => some (.failed code message transient)
  | _ => none

theorem Notification.tiding?_added {rs : Records} {i : RecordId} {f : Finding}
    (h : rs.finding? i = some f) (id : Int) : (added id i).tiding? rs = some (.came f) :=
  congrArg (Option.map Tiding.came) h

theorem Notification.tiding?_removed {rs : Records} {i : RecordId} {f : Finding}
    (h : rs.finding? i = some f) (id : Int) : (removed id i).tiding? rs = some (.went f) :=
  congrArg (Option.map Tiding.went) h

def Client.hears (c : Client) : Tiding → Bool
  | .failed .. => c.onError
  | _ => c.onResult

theorem Client.wants_of_tiding? {c : Client} {what : Notification} {rs : Records} {x : Tiding}
    (h : what.tiding? rs = some x) : c.wants what = c.hears x := by
  cases what with
  | added id i | removed id i =>
    obtain ⟨f, -, rfl⟩ := Option.map_eq_some_iff.mp h
    rfl
  | failed op =>
    cases op with
    | browse =>
      obtain rfl := Option.some.inj h
      rfl
    | _ => cases h
  | _ => cases h

def tidings (ticket : Nat) (ds : List Deed) : List (Value × Option Tiding) :=
  ds.flatMap fun d => (told ticket [d]).map fun i =>
    (i.client.userData, i.what.tiding? d.after.records)

theorem tidings_concat (ticket : Nat) (ds : List Deed) (d : Deed) : tidings ticket (ds ++ [d]) =
    tidings ticket ds ++ (told ticket [d]).map fun i =>
      (i.client.userData, i.what.tiding? d.after.records) := by
  simp [tidings]

theorem tidings_of_untold {ticket : Nat} {ds : List Deed} (h : told ticket ds = []) :
    tidings ticket ds = [] := by
  induction ds with
  | nil => rfl
  | cons d ds ih =>
    obtain ⟨hd, hds⟩ := List.append_eq_nil_iff.mp ((told_append ticket [d] ds).symm.trans h)
    have htail : tidings ticket ds = [] := ih hds
    simpa [tidings, hd] using htail

structure Search where
  found : List Finding := []
  told : List Tiding := []
  deriving DecidableEq, Repr

namespace Search

/-- What one report makes of what was found, and what there is to tell about it, to a party with
this instance id that looks for this subtype. -/
def heed (uuid subtype : String) (found : List Finding) : Reply → List Finding × Option Tiding
  | .browse flags interfaceIndex code name regtype domain =>
    if code ≠ ErrorCode.noError then (found, some (.failed code (ErrorCode.message code) true))
    else if Reply.announces flags then
      if name = uuid then (found, none)
      else if (found.find? (·.name == name)).isSome then (found, none)
      else match regtype.bind fun t => (RegType.transport? t).map (t, ·) with
        | none => (found, none)
        | some (type, transport) =>
          let f : Finding := ⟨name, transport, interfaceIndex, subtype, type, domain.getD ""⟩
          (found ++ [f], some (.came f))
    else match found.find? (·.name == name) with
      | none => (found, none)
      | some f => (found.filter (·.name != name), some (.went f))
  | _ => (found, none)

def after (uuid subtype : String) (rs : List Reply) : Search :=
  rs.foldl (fun s r => ⟨(heed uuid subtype s.found r).1,
    s.told ++ (heed uuid subtype s.found r).2.toList⟩) {}

theorem after_concat (uuid subtype : String) (rs : List Reply) (r : Reply) :
    after uuid subtype (rs ++ [r]) =
      ⟨(heed uuid subtype (after uuid subtype rs).found r).1,
        (after uuid subtype rs).told ++
          (heed uuid subtype (after uuid subtype rs).found r).2.toList⟩ := by
  simp [after]

end Search

def Shows (rs : Records) (e : String × RecordId) (f : Finding) : Prop :=
  e.1 = f.name ∧ rs.finding? e.2 = some f

section
variable {rs : Records} {ds : List (String × RecordId)} {found : List Finding}

theorem shown_lookup (h : List.Forall₂ (Shows rs) ds found) (name : String) :
    ds.lookup name = none ∧ found.find? (·.name == name) = none ∨
      ∃ i f, ds.lookup name = some i ∧ found.find? (·.name == name) = some f ∧
      rs.finding? i = some f := by
  induction h with
  | nil => exact .inl ⟨rfl, rfl⟩
  | @cons e f ds found hshows _ ih =>
    obtain ⟨n, i⟩ := e
    obtain ⟨rfl, hfinding⟩ := hshows
    by_cases hname : f.name = name
    · exact .inr ⟨i, f, by simp [hname], by simp [hname], hfinding⟩
    · have hne : (name == f.name) = false := by simpa using Ne.symm hname
      have hne' : (f.name == name) = false := by simpa using hname
      simpa only [List.lookup_cons, hne, List.find?_cons, hne'] using ih

theorem shown_names (h : List.Forall₂ (Shows rs) ds found) :
    ds.map Prod.fst = found.map Finding.name := by
  induction h with
  | nil => rfl
  | cons hshows _ ih => rw [List.map_cons, List.map_cons, hshows.1, ih]

theorem shown_mono {rs' : Records} (h : List.Forall₂ (Shows rs) ds found)
    (hkept : ∀ e ∈ ds, ∀ f, rs.finding? e.2 = some f → rs'.finding? e.2 = some f) :
    List.Forall₂ (Shows rs') ds found := by
  induction h with
  | nil => exact .nil
  | cons hshows _ ih =>
    obtain ⟨hhead, htail⟩ := List.forall_mem_cons.mp hkept
    exact .cons ⟨hshows.1, hhead _ hshows.2⟩ (ih htail)

theorem shown_drop (h : List.Forall₂ (Shows rs) ds found) (name : String) :
    List.Forall₂ (Shows rs) (ds.filter (·.1 != name)) (found.filter (·.name != name)) := by
  refine List.rel_filter ?_ h
  rintro e f ⟨hname, -⟩
  simp only [hname]

end

namespace Records
variable {rs : Records} {i : RecordId} {f : Finding}

theorem isSome_of_finding? (h : rs.finding? i = some f) : (rs.get? i).isSome := by
  obtain ⟨r, hr, -⟩ := Option.bind_eq_some_iff.mp h
  rw [hr]
  rfl

theorem finding?_add (h : rs.finding? i = some f) (r : Record) :
    (rs.add r).finding? i = some f := by
  rw [finding?, get?_add_of_isSome (isSome_of_finding? h)]
  exact h

theorem finding?_add_self {r : Record} (hr : r.state ≠ .created) :
    (rs.add r).finding? rs.nextId = some r.finding := by
  rw [finding?, get?_add_self, Option.bind_some, if_neg hr]

theorem finding?_modify_of_ne {j : RecordId} (hne : j ≠ i) (g : Record → Record) :
    (rs.modify j g).finding? i = rs.finding? i := by
  rw [finding?, get?_modify_of_ne rs g hne, finding?]

/-- A record that is resolved shows the same instance as before. -/
theorem finding?_located (h : rs.finding? i = some f) (j : RecordId)
    (fullname hostTarget : Option String) (port : Int) (namePrefix : String)
    (certificate : Text.Octets) :
    (rs.modify j (Session.located fullname hostTarget port namePrefix certificate)).finding? i =
      some f := by
  by_cases hij : j = i
  · subst hij
    obtain ⟨r, hr, hfinding⟩ := Option.bind_eq_some_iff.mp h
    split at hfinding
    · cases hfinding
    · rename_i hstate
      rw [finding?, get?_modify_self, hr, Option.map_some, Option.bind_some,
        if_neg (by simp [Session.located]), ← hfinding]
      simp [Record.finding, Record.shown, Session.located, hstate]
  · rwa [finding?_modify_of_ne hij]

end Records

/-- Whatever a turn does, the records of others show the instances that they showed. -/
theorem Transition.keeps_finding {faults : CloseFaults} {s : Session} {rs : Records} {m : Move}
    {t : Turn} (he : Transition faults s rs m t) {i : RecordId} (hi : i ≠ s.own) {f : Finding}
    (h : rs.finding? i = some f) : t.records.finding? i = some f := by
  cases he with
  | announced | confirmed | lost => rwa [Records.finding?_modify_of_ne hi.symm]
  | appeared => exact Records.finding?_add h _
  | @answered q _ _ _ code fullname hostTarget port txt =>
    dsimp only
    obtain ⟨_, _, _, hsettled⟩ | hsettled :=
      Session.settlement_cases rs q code fullname hostTarget port txt
    · rwa [hsettled]
    · rw [hsettled]
      exact Records.finding?_located h _ _ _ _ _ _
  | closed =>
    dsimp only
    split
    · rwa [Records.finding?_modify_of_ne hi.symm]
    · exact h
  | _ => exact h

/-- A turn that heeds a report on a live browse: the browse has found what there is now, and its
client is told the news if it gave the callback. The other browses stay as they are. -/
structure Turn.Heeds (t : Turn) (s : Session) (q : BrowseRequest)
    (now : List Finding × Option Tiding) : Prop where
  live : ∀ q' ∈ t.session.registry.browses.values, q' ∈ s.registry.browses.values ∧ q'.id ≠ q.id ∨
    q'.handle = q.handle ∧ q'.client = q.client ∧ q'.constraints = q.constraints ∧
      List.Forall₂ (Shows t.records) q'.discovered now.1
  told : t.next.invocation?.map (fun i => (i.client, i.what.tiding? t.records)) =
    (now.2.filter q.client.hears).map fun x => (q.client, some x)

namespace Session
variable {s : Session} {rs : Records} {q : BrowseRequest} {found : List Finding} {name : String}
  {interfaceIndex flags code : Int} {regtype domain : Option String}

theorem told_tell {c : Client} {what : Notification} {x : Tiding} (h : what.tiding? rs = some x)
    (o : Outcome) :
    (Next.tell c what o).invocation?.map (fun i => (i.client, i.what.tiding? rs)) =
      ((some x).filter c.hears).map fun x => (c, some x) := by
  rw [Next.invocation?_tell, Client.wants_of_tiding? h, Option.filter_some]
  split
  · exact congrArg (fun x => some (c, x)) h
  · rfl

theorem heeds_still (hs : s.Sound) (hq : s.registry.browses.get? q.id = some q)
    (hfound : List.Forall₂ (Shows rs) q.discovered found) {news : Option Tiding} (os : List Output)
    {next : Next}
    (htold : next.invocation?.map (fun i => (i.client, i.what.tiding? rs)) =
      (news.filter q.client.hears).map fun x => (q.client, some x)) :
    Turn.Heeds ⟨s, rs, os, next⟩ s q (found, news) := by
  refine ⟨fun q' hq' => ?_, htold⟩
  by_cases hid : q'.id = q.id
  · have hget := hs.browses.mem_values_iff.mp hq'
    rw [hid, hq] at hget
    obtain rfl := Option.some.inj hget
    exact .inr ⟨rfl, rfl, rfl, hfound⟩
  · exact .inl ⟨hq', hid⟩

theorem heeds_appear (hs : s.Sound) (hq : s.registry.browses.get? q.id = some q)
    (hfound : List.Forall₂ (Shows rs) q.discovered found) (hflags : Reply.announces flags = true) :
    (s.appear rs q interfaceIndex name regtype domain).Heeds s q
      (Search.heed s.uuid q.constraints.subtype found
      (.browse flags interfaceIndex ErrorCode.noError name regtype domain)) := by
  have hlookup := shown_lookup hfound name
  simp only [appear, Search.heed, ne_eq, not_true_eq_false, if_false, hflags, if_true]
  by_cases hself : name = s.uuid
  · simp only [hself, if_true]
    exact heeds_still hs hq hfound _ rfl
  simp only [hself, if_false]
  obtain ⟨hnew, hfind⟩ | ⟨i, f, hknown, hfind, -⟩ := hlookup
  · simp only [hnew, hfind, Option.isSome_none, Bool.false_eq_true, if_false]
    cases hread : regtype.bind fun t => (RegType.transport? t).map (t, ·) with
    | none => exact heeds_still hs hq hfound _ rfl
    | some read =>
      obtain ⟨type, transport⟩ := read
      have hrecord :
          (rs.add { Record.new name transport interfaceIndex q.constraints.subtype
          (domain.getD "") with
          regtype := type, state := .discovered }).finding? rs.nextId =
          some ⟨name, transport, interfaceIndex, q.constraints.subtype, type, domain.getD ""⟩ :=
        Records.finding?_add_self (by simp)
      refine ⟨fun q' hq' => ?_, told_tell (Notification.tiding?_added hrecord q.id) _⟩
      obtain rfl | hother := hs.browses.mem_values_modify hq hq'
      · refine .inr ⟨rfl, rfl, rfl, ?_⟩
        rw [BrowseRequest.track, BrowseRequest.putRecord_of_lookup_eq_none hnew]
        exact List.rel_append (shown_mono hfound fun _ _ _ h => Records.finding?_add h _)
          (.cons ⟨rfl, hrecord⟩ .nil)
      · exact .inl hother
  · simp only [hknown, hfind, Option.isSome_some, if_true]
    exact heeds_still hs hq hfound _ rfl

theorem heeds_vanish (hs : s.Sound) (hq : s.registry.browses.get? q.id = some q)
    (hfound : List.Forall₂ (Shows rs) q.discovered found) (hflags : Reply.announces flags = false) :
    (s.vanish rs q name).Heeds s q (Search.heed s.uuid q.constraints.subtype found
      (.browse flags interfaceIndex ErrorCode.noError name regtype domain)) := by
  simp only [vanish, Search.heed, ne_eq, not_true_eq_false, if_false, hflags, Bool.false_eq_true]
  obtain ⟨hnone, hfind⟩ | ⟨i, f, hknown, hfind, hfinding⟩ := shown_lookup hfound name
  · simp only [hnone, hfind]
    exact heeds_still hs hq hfound _ rfl
  · simp only [hknown, hfind]
    refine ⟨fun q' hq' => ?_, told_tell (Notification.tiding?_removed hfinding q.id) _⟩
    obtain rfl | hother := hs.browses.mem_values_modify hq hq'
    · exact .inr ⟨rfl, rfl, rfl, shown_drop hfound name⟩
    · exact .inl hother

theorem heeds_onBrowseReply (hs : s.Sound) (hq : q ∈ s.registry.browses.values)
    (hfound : List.Forall₂ (Shows rs) q.discovered found) (flags interfaceIndex code : Int)
    (name : String) (regtype domain : Option String) :
    (s.onBrowseReply rs q.id flags interfaceIndex code name regtype domain).Heeds s q
      (Search.heed s.uuid q.constraints.subtype found
        (.browse flags interfaceIndex code name regtype domain)) := by
  have hget := hs.browses.mem_values_iff.mp hq
  simp only [onBrowseReply, hget]
  split
  · rename_i hcode
    simp only [Search.heed, if_pos hcode]
    exact heeds_still hs hget hfound _ (told_tell rfl _)
  · rename_i hcode
    obtain rfl : code = ErrorCode.noError := not_not.mp hcode
    split
    · exact heeds_appear hs hget hfound ‹_›
    · rename_i hflags
      exact heeds_vanish hs hget hfound (by simpa using hflags)

end Session

structure Searches (ds : List Deed) (l : Loop) (q : BrowseRequest) : Prop where
  found : List.Forall₂ (Shows l.records) q.discovered
    (Search.after l.session.uuid q.constraints.subtype (reports q.handle ds)).found
  told : tidings q.client.ticket ds =
    ((Search.after l.session.uuid q.constraints.subtype (reports q.handle ds)).told.filter
      q.client.hears).map
      fun x => (q.client.userData, some x)

namespace History
variable {k : History} {d : Deed} {q q' : BrowseRequest}

/-- Whatever is done, the records that a browse tracks show what they showed. -/
theorem keeps_finding (hbefore : d.before = k.loop) {i : RecordId} (hi : i ≠ k.loop.session.own)
    {f : Finding} (h : k.loop.records.finding? i = some f) :
    d.after.records.finding? i = some f := by
  rw [← hbefore] at hi h
  obtain hkeeps | ⟨t, he, ht⟩ := Loop.step_cases (hbefore ▸ k.sound) d.faults d.move
  · have hrecords : d.after.records = d.before.records := hkeeps.records
    rwa [hrecords]
  · have hrecords : d.after.records = t.records := ht.records
    rw [hrecords]
    exact he.keeps_finding hi h

theorem searches_unreported (hbefore : d.before = k.loop) (hd : d.Follows k.deeds)
    (hsilent : ∀ h r, d.event = .report h r → h ∉ releases (outputsOf k.deeds))
    (hq : q ∈ k.loop.session.registry.browses.values) (hr : ∀ r, d.event ≠ .report q.handle r)
    (hold : Searches k.deeds k.loop q) : Searches (k.deeds ++ [d]) d.after q := by
  have hreports : reports q.handle (k.deeds ++ [d]) = reports q.handle k.deeds := by
    rw [reports_concat, Occurrence.report?_eq_none hr, Option.toList_none, List.append_nil]
  constructor
  · rw [hreports, k.uuid_step d hbefore]
    exact shown_mono hold.found fun e he f hf =>
      keeps_finding hbefore (k.ownApart.untracked q hq e he) hf
  · rw [hreports, k.uuid_step d hbefore, tidings_concat,
      untold_of_unreported hbefore hd hsilent hq hr, List.map_nil, List.append_nil]
    exact hold.told

theorem told_of_heeds {t : Turn} {now : List Finding × Option Tiding}
    (hheeds : t.Heeds k.loop.session q now)
    (hinv : invocations d.outputs = t.next.invocation?.toList)
    (hrecords : d.after.records = t.records) :
    (told q.client.ticket [d]).map (fun i => (i.client.userData, i.what.tiding? d.after.records)) =
      (now.2.toList.filter q.client.hears).map fun x => (q.client.userData, some x) := by
  have htold := hheeds.told
  rw [← Option.toList_filter]
  cases hi : t.next.invocation? with
  | none =>
    rw [hi, Option.map_none, eq_comm, Option.map_eq_none_iff] at htold
    rw [told_of_silent (by rw [hinv, hi]; rfl), htold]
    rfl
  | some i =>
    rw [hi, Option.map_some, eq_comm] at htold
    obtain ⟨x, hx, hpair⟩ := Option.map_eq_some_iff.mp htold
    obtain ⟨hclient, htiding⟩ := Prod.mk.inj hpair
    rw [told_of_told (by rw [hinv, hi]; rfl), if_pos (by rw [hclient]), hx, List.map_singleton,
      hrecords, ← hclient, ← htiding]
    rfl

theorem searches_reported (hbefore : d.before = k.loop) (hd : d.Follows k.deeds)
    (hsilent : ∀ h r, d.event = .report h r → h ∉ releases (outputsOf k.deeds))
    (hq : q ∈ k.loop.session.registry.browses.values) {r : Reply}
    (hr : d.event = .report q.handle r)
    (hold : ∀ q ∈ k.loop.session.registry.browses.values, Searches k.deeds k.loop q)
    (hq' : q' ∈ d.after.session.registry.browses.values) :
    Searches (k.deeds ++ [d]) d.after q' := by
  obtain ⟨flags, interfaceIndex, code, name, regtype, domain, rfl, hmove, htakes⟩ :=
    takes_browse_report hbefore hd hq hr
  have hheeds := Session.heeds_onBrowseReply k.sound hq (hold q hq).found flags interfaceIndex
    code name regtype domain
  have hinv : invocations d.outputs = _ := htakes.invocations_eq
    (Session.transition_browseReply {} k.loop.records q.id flags interfaceIndex code name
      regtype domain)
  have hsession : d.after.session = _ := htakes.session
  have hrecords : d.after.records = _ := htakes.records
  rw [hsession] at hq'
  obtain ⟨hother, hid⟩ | ⟨hhandle, hclient, hconstraints, hfound⟩ := hheeds.live q' hq'
  · refine searches_unreported hbefore hd hsilent hother (fun r' hr' => hid ?_) (hold q' hother)
    rw [hr, Occurrence.report.injEq] at hr'
    exact eq_of_handle hq hother hr'.1.symm
  · have hreports : reports q'.handle (k.deeds ++ [d]) =
        reports q.handle k.deeds ++ [.browse flags interfaceIndex code name regtype domain] := by
      rw [hhandle, reports_concat, Occurrence.report?_eq_some_iff.mpr hr, Option.toList_some]
    constructor
    · rw [hreports, hconstraints, k.uuid_step d hbefore, Search.after_concat, hrecords]
      exact hfound
    · rw [hreports, hconstraints, hclient, k.uuid_step d hbefore, Search.after_concat,
        tidings_concat, told_of_heeds hheeds hinv hrecords, (hold q hq).told, List.filter_append,
        List.map_append]

theorem searches_begun (hd : d.Follows k.deeds) {r : Request} {descriptor : Int}
    (hm : d.move = .request r (.started q.handle descriptor)) (hc : r.client? = some q.client)
    (hnone : q.discovered = []) (hinv : invocations d.outputs = []) :
    Searches (k.deeds ++ [d]) d.after q := by
  have he := hd.event_of_request hm
  have hreports : reports q.handle (k.deeds ++ [d]) = [] := by
    rw [reports_concat, reports_of_unreturned (hd.fresh_handle he), he]
    rfl
  constructor
  · rw [hreports, hnone]
    exact .nil
  · rw [hreports, tidings_concat, told_of_silent hinv,
      tidings_of_untold (k.once.told_of_fresh (hd.fresh_ticket (hd.client?_of_request hm hc)))]
    rfl

/-- What a live browse has found, in order, and what it has told its client, comes of the reports on
its handle alone. -/
theorem searches (k : History) (hsilent : SilentOnceClosed k.deeds) :
    ∀ q ∈ k.loop.session.registry.browses.values, Searches k.deeds k.loop q := by
  refine induction (P := fun ds l => SilentOnceClosed ds →
    ∀ q ∈ l.session.registry.browses.values, Searches ds l q) ?_ ?_ k hsilent
  · exact fun _ _ _ _ _ q hq => nomatch hq
  intro k d hbefore hd hold hsilent q' hq'
  obtain ⟨hsilent, hquiet⟩ := atEach_concat.mp hsilent
  have hold := hold hsilent
  by_cases hreported : ∃ q ∈ k.loop.session.registry.browses.values, ∃ r, d.event =
    .report q.handle r
  · obtain ⟨q, hq, r, hr⟩ := hreported
    exact searches_reported hbefore hd hquiet hq hr hold hq'
  -- a browse that is not new, and on the handle of which nothing is reported
  have unreported (hkept : q' ∈ k.loop.session.registry.browses.values) :
      Searches (k.deeds ++ [d]) d.after q' :=
    searches_unreported hbefore hd hquiet hkept (fun r hr => hreported ⟨q', hkept, r, hr⟩)
      (hold q' hkept)
  obtain hkeeps | ⟨t, he, ht⟩ := Loop.step_cases (hbefore ▸ k.sound) d.faults d.move
  · have hsession : d.after.session = d.before.session := hkeeps.session
    rw [hsession, hbefore] at hq'
    exact unreported hq'
  · have hsession : d.after.session = t.session := ht.session
    have hinv : invocations d.outputs = t.next.invocation?.toList := ht.invocations_eq he
    rw [hsession] at hq'
    rw [hbefore] at he
    by_cases hreply : ∃ address r, d.move = .reply address r
    · obtain ⟨address, r, hm⟩ := hreply
      obtain ⟨o, ho, hevent, haddress, -⟩ := hd.of_reply hm
      rw [hm] at he
      refine unreported (he.browses_of_reply (fun id hid => ?_) ▸ hq')
      obtain ⟨q, hlive, hhandle⟩ := browse_live ho (hquiet o.handle r hevent) (haddress.trans hid)
      exact hreported ⟨q, RequestTable.mem_values_of_get? hlive, r, hhandle ▸ hevent⟩
    · have hmove (address : ReplyTo) (r : Reply) : d.move ≠ .reply address r :=
        fun hm => hreply ⟨address, r, hm⟩
      obtain hkept | ⟨hnone, huntold, r, descriptor, hm, hc⟩ :=
        he.browses_unreported k.sound hmove hq'
      · exact unreported hkept
      · exact searches_begun hd hm hc hnone (by rw [hinv, huntold]; rfl)

end History
end ServiceDiscovery
