import ServiceDiscovery.Proofs.Declining
import ServiceDiscovery.Proofs.Locations

/-!
Which records can be resolved: those that a live browse has announced and not taken back. For them
the provider is asked, for any other record the call comes to nothing.
-/
namespace ServiceDiscovery
open Sighting

def Record.query (r : Record) : Call :=
  .resolve r.shown.interfaceIndex r.shown.uuid r.shown.regtype r.shown.domain

/-- All that one store holds, another one holds as well. It may hold more: what other sessions have
found, and what callers have made. -/
def Records.Within (rs rs' : Records) : Prop := ∀ i, (rs.get? i).isSome → rs'.get? i = rs.get? i

theorem Records.Within.named {rs rs' : Records} (h : rs.Within rs') : rs.Named rs' :=
  ⟨fun i hi => (h i hi).symm ▸ hi, fun i hi => by rw [name, name, get, get, h i hi]⟩

/-- A browse has announced a record and not taken it back since. One whose client does not listen
announces nothing, and has what it tracks. -/
def BrowseRequest.Offers (q : BrowseRequest) (ds : List Deed) (rs : Records) (i : RecordId) :
    Prop :=
  if q.client.onResult then Stands i (announcements q.client.ticket ds)
  else q.discovered.lookup (rs.name i) = some i

theorem Session.isSome_tracker?_iff {s : Session} {rs : Records} {i : RecordId} :
    (s.tracker? rs i).isSome ↔
    ∃ q ∈ s.registry.browses.values, q.discovered.lookup (rs.name i) = some i := by
  rw [tracker?, Registry.findDiscovered, List.find?_isSome]
  simp only [beq_iff_eq, Records.name]

namespace History
variable {k : History} {rs : Records} {i : RecordId} {q q' : BrowseRequest}

theorem offers_iff (hrs : k.loop.records.Within rs)
    (hq : q ∈ k.loop.session.registry.browses.values) :
    q.Offers k.deeds rs i ↔ q.discovered.lookup (rs.name i) = some i := by
  unfold BrowseRequest.Offers
  split
  · rename_i hon
    have hp := k.presence
    rw [hp.tracked q hq hon]
    have hname (hadded : .added i ∈ announcements q.client.ticket k.deeds) :
        rs.name i = k.loop.records.name i :=
      hrs.named.name i (hp.stored _ (.added i) hadded)
    have hstands := stands_iff_lookup (hp.alternate q.client.ticket (k.loop.records.name i))
    constructor
    · intro hoffers
      rw [hname hoffers.mem]
      exact hstands.mp hoffers
    · intro hlookup
      obtain ⟨-, hadded⟩ := mem_present (BrowseRequest.mem_of_lookup hlookup)
      rw [hname hadded] at hlookup
      exact hstands.mpr hlookup
  · exact Iff.rfl

theorem offers_unique (hrs : k.loop.records.Within rs)
    (hq : q ∈ k.loop.session.registry.browses.values)
    (hq' : q' ∈ k.loop.session.registry.browses.values) (h : q.Offers k.deeds rs i)
    (h' : q'.Offers k.deeds rs i) : q = q' := by
  have hp := BrowseRequest.mem_of_lookup ((offers_iff hrs hq).mp h)
  have hp' := BrowseRequest.mem_of_lookup ((offers_iff hrs hq').mp h')
  exact browse_of_id hq hq' (k.remote.apart q hq q' hq' _ hp _ hp' rfl)

theorem others_shown (k : History) (hi : k.loop.session.Others k.loop.records i) :
    (k.loop.records.finding? i).isSome := by
  refine invariant (P := fun _ s rs => ∀ i, s.Others rs i → (rs.finding? i).isSome) ?_ ?_ ?_ k i hi
  · exact fun _ _ _ _ i hi => absurd hi (Loop.not_others_start _ _ _ _ i)
  · exact fun _ _ _ _ _ h _ => h
  · intro k d t hbefore _ h he _ i hi
    have hlater : k.loop.session.own < i := he.own_eq ▸ hi.1
    cases hold : k.loop.records.get? i with
    | some r =>
      obtain ⟨f, hf⟩ := Option.isSome_iff_exists.mp (h i ⟨hlater, by simp [hold]⟩)
      rw [he.keeps_finding (Nat.ne_of_gt hlater) hf]
      rfl
    | none =>
      obtain ⟨r, hr⟩ := Option.isSome_iff_exists.mp hi.2
      have hstate : r.state = .discovered := (he.knows_of_new hold hr).state
      rw [Records.finding?, hr, Option.bind_some, if_neg (by simp [hstate])]
      rfl

/-- A record that is offered is asked for as it is shown. -/
theorem resolveRequest_of_offers (hrs : k.loop.records.Within rs)
    (hq : q ∈ k.loop.session.registry.browses.values) (h : q.Offers k.deeds rs i) :
    k.loop.session.resolveRequest rs i =
      ⟨(rs.get i).query, .resolve k.loop.session.registry.resolves.nextId⟩ := by
  have hothers := k.remote.tracked q hq _ (BrowseRequest.mem_of_lookup ((offers_iff hrs hq).mp h))
  obtain ⟨f, hf⟩ := Option.isSome_iff_exists.mp (k.others_shown hothers)
  obtain ⟨r, hr, hfinding⟩ := Option.bind_eq_some_iff.mp hf
  have hget : rs.get i = r := by rw [Records.get, hrs i hothers.2, hr, Option.getD_some]
  have hstate : r.state ≠ .created := by
    intro hnew
    rw [if_pos hnew] at hfinding
    cases hfinding
  have hdomain : r.shown.domain = r.domain := if_neg hstate
  rw [Session.resolveRequest, hget, Record.query, hdomain]
  rfl

/-- A resolve asks the provider just if a live browse offers the record, whoever made it: once, and
for the instance that the record shows. Otherwise it changes nothing and its client is told of one
error, which is not transient. No two live browses offer the same record. -/
theorem resolve_asks_offered (k : History) (hidle : k.loop.isIdle = true)
    (hopen : k.loop.session.closed = false) {rs : Records} (hrs : k.loop.records.Within rs)
    (faults : CloseFaults) (i : RecordId) (c : Client) (answer : StartAnswer) :
    let l : Loop := { k.loop with records := rs }
    let r := l.step faults (.request (.resolve i c) answer)
    ((∃ q ∈ l.session.registry.browses.values, q.Offers k.deeds rs i) →
      attempts r.2 = [⟨(rs.get i).query, .resolve l.session.registry.resolves.nextId⟩]) ∧
    ((∀ q ∈ l.session.registry.browses.values, ¬q.Offers k.deeds rs i) →
      l.Declines [] c (.failed .resolve (-1) ErrorCode.localError ErrorCode.unknownInstance false)
        (.ok none) r) ∧
    ∀ q ∈ l.session.registry.browses.values, ∀ q' ∈ l.session.registry.browses.values,
      q.Offers k.deeds rs i → q'.Offers k.deeds rs i → q = q' := by
  intro l r
  have hl : l.isIdle = true := hidle
  have hr : r = l.settle (k.loop.session.resolve rs i c answer) := Loop.step_request hl _ _
  refine ⟨?_, fun hnone => ?_, fun q hq q' hq' => offers_unique hrs hq hq'⟩
  · rintro ⟨q, hq, hoffers⟩
    have htracked := Session.isSome_tracker?_iff.mpr ⟨q, hq, (offers_iff hrs hq).mp hoffers⟩
    obtain ⟨tracker, htracker⟩ := Option.isSome_iff_exists.mp htracked
    rw [hr, Loop.attempts_settle hl, Session.attempts_resolve hopen htracker,
      resolveRequest_of_offers hrs hq hoffers]
  · have huntracked : k.loop.session.tracker? rs i = none := by
      rw [← Option.not_isSome_iff_eq_none, Session.isSome_tracker?_iff]
      rintro ⟨q, hq, hlookup⟩
      exact hnone q hq ((offers_iff hrs hq).mpr hlookup)
    simp only [Session.resolve, hopen, Bool.false_eq_true, if_false, huntracked] at hr
    rw [hr]
    refine Loop.declines_settle hl ?_ ?_ ?_ ?_ <;> rfl

def foundOnce : History :=
  browsed.adds [.report 1 (.browse 2 0 0 "B" (some "_ndn._udp.") (some "local.")), .finish false]

theorem resolve_asks_offered_foundOnce :
    let l : Loop := { foundOnce.loop with records := foundOnce.loop.records.add (.named "B") }
    attempts (l.step {} (.request (.resolve 1 { ticket := 2 }) (.started 2 11))).2 =
      [⟨.resolve 0 "B" "_ndn._udp." "local.", .resolve 1⟩] ∧
    l.Declines [] { ticket := 2 }
      (.failed .resolve (-1) (-1) "service discovery instance is unknown" false)
      (.ok none) (l.step {} (.request (.resolve 2 { ticket := 2 }) (.started 2 11))) := by
  intro l
  have hrs : foundOnce.loop.records.Within l.records := fun _ hi => Records.get?_add_of_isSome hi _
  have hidle : foundOnce.loop.isIdle = true := by decide +kernel
  have hopen : foundOnce.loop.session.closed = false := by decide +kernel
  have hsaid : announcements 1 foundOnce.deeds = [.added 1] := by decide +kernel
  have hlive : ∀ q ∈ foundOnce.loop.session.registry.browses.values,
      q.client.onResult = true ∧ q.client.ticket = 1 := by decide +kernel
  constructor
  · obtain ⟨hasks, -⟩ :=
      resolve_asks_offered foundOnce hidle hopen hrs {} 1 { ticket := 2 } (.started 2 11)
    obtain ⟨q, hq⟩ : ∃ q, q ∈ foundOnce.loop.session.registry.browses.values :=
      List.exists_mem_of_length_pos (by decide +kernel)
    obtain ⟨hon, hticket⟩ := hlive q hq
    refine (hasks ⟨q, hq, ?_⟩).trans (by decide +kernel)
    rw [BrowseRequest.Offers, if_pos hon, hticket, hsaid]
    exact ⟨[], [], rfl, List.not_mem_nil⟩
  · obtain ⟨-, hdeclines, -⟩ :=
      resolve_asks_offered foundOnce hidle hopen hrs {} 2 { ticket := 2 } (.started 2 11)
    refine hdeclines fun q hq hoffers => ?_
    obtain ⟨hon, hticket⟩ := hlive q hq
    rw [BrowseRequest.Offers, if_pos hon, hticket, hsaid] at hoffers
    have hmem := hoffers.mem
    simp at hmem

end History
end ServiceDiscovery
