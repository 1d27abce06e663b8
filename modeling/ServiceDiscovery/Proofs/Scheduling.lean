import Mathlib.Logic.Function.Basic
import ServiceDiscovery.Proofs.Searching

/-!
Schedules. The provider posts replies on handles and delivers them in the order in which it posted
them, few or many in a pump, and everything else may happen in between. What a browse finds and
tells depends on what was posted on its handle, and on nothing else of the schedule.
-/
namespace ServiceDiscovery

namespace Search
variable {uuid subtype name : String} {flags flags' interfaceIndex code : Int}
  {regtype domain : Option String}

theorem heed_congr (h : Reply.announces flags' = Reply.announces flags) (found : List Finding) :
    heed uuid subtype found (.browse flags' interfaceIndex code name regtype domain) =
      heed uuid subtype found (.browse flags interfaceIndex code name regtype domain) := by
  simp only [heed, h]

theorem heed_withMoreComing (found : List Finding) (r : Reply) :
    heed uuid subtype found r.withMoreComing = heed uuid subtype found r := by
  cases r with
  | browse flags => exact heed_congr (Reply.announces_marked flags) found
  | resolve | register => rfl

end Search

def Reply.DeliveredAs (posted delivered : Reply) : Prop :=
  delivered = posted ∨ delivered = posted.withMoreComing

theorem Search.after_congr {uuid subtype : String} {posted delivered : List Reply}
    (h : List.Forall₂ Reply.DeliveredAs posted delivered) :
    after uuid subtype delivered = after uuid subtype posted := by
  unfold after
  generalize ({} : Search) = s
  induction h generalizing s with
  | nil => rfl
  | @cons r r' _ _ hr _ ih =>
    have hsame : heed uuid subtype s.found r' = heed uuid subtype s.found r := by
      obtain rfl | rfl := hr
      · rfl
      · exact heed_withMoreComing _ _
    rw [List.foldl_cons, List.foldl_cons, hsame, ih]

def Occurrence.isReport : Occurrence → Bool
  | .report .. => true
  | _ => false

theorem Occurrence.report?_of_not_isReport {e : Occurrence} (he : e.isReport = false) (h : Handle) :
    e.report? h = none :=
  report?_eq_none fun _ hr => by simp [hr, isReport] at he

theorem History.reports_add {k : History} {e : Occurrence} {m : Move} (faults : CloseFaults)
    (h : Handle) (hm : e.move? k.loop k.deeds = some m) :
    reports h (k.add faults e).deeds = reports h k.deeds ++ (e.report? h).toList := by
  rw [(add_eq faults hm).1, reports_concat]

theorem History.reports_add_of_other {k : History} {e : Occurrence} (faults : CloseFaults)
    {h : Handle} (he : e.report? h = none) :
    reports h (k.add faults e).deeds = reports h k.deeds := by
  cases hm : e.move? k.loop k.deeds with
  | none => rw [(add_eq_self faults hm).1]
  | some m => rw [reports_add faults h hm, he, Option.toList_none, List.append_nil]

/-- What the provider posts and delivers, and what else happens. A delivery may mark the reply, as a
pump does that has more to deliver. -/
inductive Schedule
  | start (uuid : String) (codec : Txt.Codec) (ownsProvider : Bool) (records : Records)
  | post (past : Schedule) (h : Handle) (r : Reply)
  | deliver (past : Schedule) (faults : CloseFaults) (h : Handle) (marked : Bool)
  | happen (past : Schedule) (faults : CloseFaults) (e : Occurrence)

namespace Schedule

def accepts (k : History) (h : Handle) (r : Reply) : Bool :=
  ((Occurrence.report h r).move? k.loop k.deeds).isSome &&
    !(releases (outputsOf k.deeds)).contains h

/-- The history so far, and what was posted on each handle but not delivered. The oldest reply is
delivered first. -/
def state : Schedule → History × (Handle → List Reply)
  | start uuid codec ownsProvider records => (.start uuid codec ownsProvider records, fun _ => [])
  | post past h r =>
    let (k, queues) := past.state
    (k, Function.update queues h (queues h ++ [r]))
  | deliver past faults h marked =>
    let (k, queues) := past.state
    match queues h with
    | [] => (k, queues)
    | r :: rest =>
      let delivered := if marked then r.withMoreComing else r
      if accepts k h delivered then
        (k.add faults (.report h delivered), Function.update queues h rest)
      else (k, queues)
  | happen past faults e =>
    let (k, queues) := past.state
    (if e.isReport then k else k.add faults e, queues)

def history (s : Schedule) : History := s.state.1
def queue (s : Schedule) (h : Handle) : List Reply := s.state.2 h

def posted (h : Handle) : Schedule → List Reply
  | start .. => []
  | post past h' r => past.posted h ++ if h' = h then [r] else []
  | deliver past .. => past.posted h
  | happen past .. => past.posted h

theorem deliver_cases (s : Schedule) (faults : CloseFaults) (h : Handle) (marked : Bool) :
    (s.deliver faults h marked).state = s.state ∨
      ∃ r rest delivered m, s.queue h = r :: rest ∧ r.DeliveredAs delivered ∧
        (Occurrence.report h delivered).move? s.history.loop s.history.deeds = some m ∧
        h ∉ releases (outputsOf s.history.deeds) ∧
        (s.deliver faults h marked).state =
          (s.history.add faults (.report h delivered), Function.update s.queue h rest) := by
  cases hqueue : s.queue h with
  | nil =>
    refine .inl ?_
    have hnone : s.state.2 h = [] := hqueue
    simp only [state, hnone]
  | cons r rest =>
    have hwaits : s.state.2 h = r :: rest := hqueue
    have hdelivered : r.DeliveredAs (if marked then r.withMoreComing else r) := by
      cases marked
      · exact .inl rfl
      · exact .inr rfl
    generalize hthis : (if marked then r.withMoreComing else r) = delivered at hdelivered
    by_cases hcan : accepts s.state.1 h delivered = true
    · obtain ⟨hmove, hopen⟩ := Bool.and_eq_true_iff.mp hcan
      obtain ⟨m, hm⟩ := Option.isSome_iff_exists.mp hmove
      have hopen : h ∉ releases (outputsOf s.state.1.deeds) := by simpa using hopen
      refine .inr ⟨r, rest, delivered, m, rfl, hdelivered, hm, hopen, ?_⟩
      simp only [state, hwaits, hthis, if_pos hcan]
      rfl
    · refine .inl ?_
      simp only [state, hwaits, hthis, if_neg hcan]

theorem posted_eq (s : Schedule) (h : Handle) : ∃ given, s.posted h = given ++ s.queue h ∧
    List.Forall₂ Reply.DeliveredAs given (reports h s.history.deeds) := by
  induction s with
  | start => exact ⟨[], rfl, .nil⟩
  | post past h' r ih =>
    obtain ⟨given, hposted, hgiven⟩ := ih
    refine ⟨given, ?_, hgiven⟩
    have hqueue : (past.post h' r).queue h =
        Function.update past.queue h' (past.queue h' ++ [r]) h := rfl
    rw [hqueue, posted, hposted]
    by_cases hh : h' = h
    · simp [hh]
    · simp [hh, Function.update_of_ne (Ne.symm hh)]
  | deliver past faults h' marked ih =>
    obtain ⟨given, hposted, hgiven⟩ := ih
    obtain hstate | ⟨r, rest, delivered, m, hqueue, hdelivered, hm, -, hstate⟩ :=
      past.deliver_cases faults h' marked
    · rw [history, queue, hstate]
      exact ⟨given, hposted, hgiven⟩
    rw [history, queue, hstate, posted, hposted]
    dsimp only
    by_cases hh : h' = h
    · subst hh
      refine ⟨given ++ [r], by simp [hqueue], ?_⟩
      rw [History.reports_add faults h' hm, Occurrence.report?_eq_some_iff.mpr rfl,
        Option.toList_some]
      exact List.rel_append hgiven (.cons hdelivered .nil)
    · refine ⟨given, by simp [Function.update_of_ne (Ne.symm hh)], ?_⟩
      rw [History.reports_add_of_other faults (by simp [Occurrence.report?, hh])]
      exact hgiven
  | happen past faults e ih =>
    obtain ⟨given, hposted, hgiven⟩ := ih
    refine ⟨given, hposted, ?_⟩
    cases he : e.isReport with
    | true => simpa only [history, state, he, if_true] using hgiven
    | false =>
      have hsame :=
        History.reports_add_of_other (k := past.history) faults (e.report?_of_not_isReport he h)
      rw [← hsame] at hgiven
      simpa only [history, state, he, Bool.false_eq_true, if_false] using hgiven

theorem silent (s : Schedule) : SilentOnceClosed s.history.deeds := by
  induction s with
  | start => exact History.atEach_start _ _ _ _
  | post past h r ih => exact ih
  | deliver past faults h marked ih =>
    obtain hstate | ⟨r, rest, delivered, m, -, -, -, hopen, hstate⟩ :=
      past.deliver_cases faults h marked
    · rw [history, hstate]
      exact ih
    · rw [history, hstate]
      refine History.atEach_add ih fun _ _ h' r' he => ?_
      obtain ⟨rfl, -⟩ := Occurrence.report.inj he
      exact hopen
  | happen past faults e ih =>
    cases he : e.isReport with
    | true => simpa only [history, state, he, if_true] using ih
    | false =>
      have hadd : SilentOnceClosed (past.history.add faults e).deeds := by
        refine History.atEach_add ih fun _ _ h r hreport => ?_
        have hreport : e = .report h r := hreport
        simp [hreport, Occurrence.isReport] at he
      simpa only [history, state, he, Bool.false_eq_true, if_false] using hadd

/-- A live browse for which everything posted was delivered has found and told what a search after
the posts has. -/
theorem finds_as_posted {s : Schedule} {q : BrowseRequest}
    (hq : q ∈ s.history.loop.session.registry.browses.values) (hqueue : s.queue q.handle = []) :
    let search := Search.after s.history.loop.session.uuid q.constraints.subtype (s.posted q.handle)
    q.discovered.map Prod.fst = search.found.map Finding.name ∧
      tidings q.client.ticket s.history.deeds =
        (search.told.filter q.client.hears).map fun x => (q.client.userData, some x) := by
  obtain ⟨given, hposted, hgiven⟩ := s.posted_eq q.handle
  rw [hqueue, List.append_nil] at hposted
  obtain ⟨hfound, htold⟩ := s.history.searches s.silent q hq
  rw [Search.after_congr hgiven, ← hposted] at hfound htold
  exact ⟨shown_names hfound, htold⟩

/-- Schedules do not show. Where the same was posted on the handle of a live browse and all of it
was delivered, in whatever batches and among whatever else, the browse has told its client the same,
and it has found the same instances in the same order. -/
theorem batching_invisible {a b : Schedule} {p q : BrowseRequest}
    (huuid : a.history.loop.session.uuid = b.history.loop.session.uuid)
    (hp : p ∈ a.history.loop.session.registry.browses.values)
    (hq : q ∈ b.history.loop.session.registry.browses.values)
    (hconstraints : p.constraints = q.constraints) (hresult : p.client.onResult = q.client.onResult)
    (herror : p.client.onError = q.client.onError) (hdata : p.client.userData = q.client.userData)
    (hposted : a.posted p.handle = b.posted q.handle) (ha : a.queue p.handle = [])
    (hb : b.queue q.handle = []) :
    tidings p.client.ticket a.history.deeds = tidings q.client.ticket b.history.deeds ∧
      p.discovered.map Prod.fst = q.discovered.map Prod.fst := by
  obtain ⟨hfound, htold⟩ := finds_as_posted hp ha
  obtain ⟨hfound', htold'⟩ := finds_as_posted hq hb
  have hhears : p.client.hears = q.client.hears := by
    funext x
    cases x with
    | failed => exact herror
    | came | went => exact hresult
  rw [hfound, htold, hfound', htold', huuid, hconstraints, hposted, hhears, hdata]
  exact ⟨rfl, rfl⟩

def adding (name : String) : Reply := .browse 2 0 0 name (some "_ndn._udp.") (some "local.")
def removing (name : String) : Reply := .browse 0 0 0 name (some "_ndn._udp.") (some "local.")

def running (s : Schedule) (descriptor : Int) : Schedule :=
  (s.happen {} (.request (.run 5) (.raised (.closed "")))).happen {} (.waited [descriptor] none)

def telling (s : Schedule) (h : Handle) (marked : Bool) : Schedule :=
  (s.deliver {} h marked).happen {} (.finish false)

def together : Schedule :=
  let s : Schedule :=
    (start "A" {} false {}).happen {} (.request (.browse {} { ticket := 1 }) (.started 1 10))
  let s := (((s.post 1 (adding "B")).post 1 (adding "C")).post 1 (removing "B")).post 1
    (.browse 2 0 (-65563) "" none none)
  (((((s.running 10).telling 1 true).telling 1 true).telling 1 true).telling 1 false).happen {}
    (.pumped .delivered)

def apart : Schedule :=
  let s : Schedule :=
    (start "A" {} false {}).happen {} (.request (.browse {} { ticket := 7 }) (.started 3 10))
  let s := s.happen {} (.request (.browse {} { ticket := 8 }) (.started 5 11))
  let s := (((s.post 5 (adding "B")).post 3 (adding "B")).running 11).telling 5 false |>.happen {}
    (.pumped .delivered)
  let s := ((s.running 10).telling 3 false).happen {} (.pumped .delivered)
  let s := (((s.post 5 (adding "C")).post 5 (removing "B")).running 11).telling 5 true
    |>.telling 5 false
  let s :=
    (s.happen {} (.pumped .delivered)).happen {} (.request (.cancel 1) (.raised (.closed "")))
  (((s.post 5 (.browse 2 0 (-65563) "" none none)).running 11).telling 5 false).happen {}
    (.pumped .delivered)

def live (s : Schedule) (id : Int) : Option (Handle × Constraints × Nat × Bool × Bool × Bool) :=
  (s.history.loop.session.registry.browses.get? id).map fun q =>
    (q.handle, q.constraints, q.client.ticket, q.client.onResult, q.client.onError,
      q.client.userData matches .null)

theorem exists_of_live (s : Schedule) (id : Int) {h : Handle} {k : Constraints} {ticket : Nat}
    {result error : Bool} (hlive : s.live id = some (h, k, ticket, result, error, true)) :
    ∃ q ∈ s.history.loop.session.registry.browses.values, q.handle = h ∧ q.constraints = k ∧
      q.client = ⟨ticket, result, error, .null⟩ := by
  obtain ⟨q, hq, hknown⟩ := Option.map_eq_some_iff.mp hlive
  obtain ⟨id, handle, constraints, ⟨ticket', result', error', userData⟩, discovered⟩ := q
  simp only [Prod.mk.injEq] at hknown
  obtain ⟨rfl, rfl, rfl, rfl, rfl, hnull⟩ := hknown
  refine ⟨_, RequestTable.mem_values_of_get? hq, rfl, rfl, ?_⟩
  cases userData with
  | null => rfl
  | _ => cases hnull

theorem batching_invisible_apart :
    together.posted 1 = apart.posted 5 ∧ together.queue 1 = [] ∧ apart.queue 5 = [] ∧
    (∃ p ∈ together.history.loop.session.registry.browses.values, p.handle = 1 ∧
      ∃ q ∈ apart.history.loop.session.registry.browses.values, q.handle = 5 ∧
        p.discovered.map Prod.fst = q.discovered.map Prod.fst) ∧
    tidings 1 together.history.deeds = tidings 8 apart.history.deeds ∧
    (tidings 1 together.history.deeds).map Prod.snd =
      [some (.came ⟨"B", .udp, 0, "", "_ndn._udp.", "local."⟩),
        some (.came ⟨"C", .udp, 0, "", "_ndn._udp.", "local."⟩),
        some (.went ⟨"B", .udp, 0, "", "_ndn._udp.", "local."⟩),
        some (.failed (-65563) (ErrorCode.message (-65563)) true)] := by
  have hposted : together.posted 1 = apart.posted 5 := by decide +kernel
  have ha : together.queue 1 = [] := by decide +kernel
  have hb : apart.queue 5 = [] := by decide +kernel
  obtain ⟨p, hp, hphandle, hpconstraints, hpclient⟩ :=
    exists_of_live together 1 (by decide +kernel : _ = some (1, {}, 1, true, true, true))
  obtain ⟨q, hq, hqhandle, hqconstraints, hqclient⟩ :=
    exists_of_live apart 2 (by decide +kernel : _ = some (5, {}, 8, true, true, true))
  obtain ⟨htold, hfound⟩ :=
    batching_invisible (by decide +kernel) hp hq (hpconstraints.trans hqconstraints.symm)
    (by rw [hpclient, hqclient]) (by rw [hpclient, hqclient]) (by rw [hpclient, hqclient])
    (by rw [hphandle, hqhandle, hposted]) (by rw [hphandle, ha]) (by rw [hqhandle, hb])
  rw [hpclient, hqclient] at htold
  exact ⟨hposted, ha, hb, ⟨p, hp, hphandle, q, hq, hqhandle, hfound⟩, htold, by decide +kernel⟩

end Schedule
end ServiceDiscovery
