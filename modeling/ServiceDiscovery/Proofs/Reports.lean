import ServiceDiscovery.Proofs.Attribution
import ServiceDiscovery.Proofs.Presence

/-!
The reports on the handle of a browse. They alone change what it tracks, and of them alone its
client is told.
-/
namespace ServiceDiscovery

theorem Reply.announces_marked (flags : Int) :
    announces (if flags % 2 = 0 then flags + 1 else flags) = announces flags := by
  simp only [announces]
  split
  · have hhalf : (flags + 1) / 2 = flags / 2 := by omega
    rw [hhalf]
  · rfl

def Occurrence.report? (h : Handle) : Occurrence → Option Reply
  | .report h' r => if h' = h then some r else none
  | _ => none

def reports (h : Handle) (ds : List Deed) : List Reply := ds.filterMap (·.event.report? h)

section
variable {h : Handle} {e : Occurrence} {r : Reply}

theorem reports_concat (h : Handle) (ds : List Deed) (d : Deed) :
    reports h (ds ++ [d]) = reports h ds ++ (d.event.report? h).toList := by
  cases hd : d.event.report? h <;> simp [reports, hd]

theorem Occurrence.report?_eq_some_iff : e.report? h = some r ↔ e = .report h r := by
  cases e with
  | report h' r' => simp [report?]
  | _ => simp [report?]

theorem Occurrence.report?_eq_none (he : ∀ r, e ≠ .report h r) : e.report? h = none :=
  Option.eq_none_iff_forall_ne_some.mpr fun r hr => he r (report?_eq_some_iff.mp hr)

theorem mem_reports {ds : List Deed} : r ∈ reports h ds ↔ ∃ d ∈ ds, d.event = .report h r := by
  simp [reports, List.mem_filterMap, Occurrence.report?_eq_some_iff]

theorem History.reports_of_unreturned {k : History} (hh : h ∉ returned k.deeds) :
    reports h k.deeds = [] := by
  rw [List.eq_nil_iff_forall_not_mem]
  intro r hr
  obtain ⟨d, hd, he⟩ := mem_reports.mp hr
  obtain ⟨k', rest, hk, -, hfollows⟩ := exists_at hd
  obtain ⟨o, ho, rfl, -⟩ := hfollows.takes_report he
  rw [hk, returned_append] at hh
  exact hh (List.mem_append_left _ (List.mem_map_of_mem ho))

end

namespace Transition
variable {faults : CloseFaults} {s : Session} {rs : Records} {m : Move} {t : Turn}

theorem browses_of_reply {address : ReplyTo} {r : Reply}
    (he : Transition faults s rs (.reply address r) t) (ha : ∀ id, address ≠ .browse id) :
    t.session.registry.browses = s.registry.browses := by
  cases he with
  | browseFailed | appeared | vanished => exact absurd rfl (ha _)
  | _ => rfl

theorem browses_unreported (he : Transition faults s rs m t) (hs : s.Sound)
    (hm : ∀ address r, m ≠ .reply address r) {q : BrowseRequest}
    (hq : q ∈ t.session.registry.browses.values) :
    q ∈ s.registry.browses.values ∨ q.discovered = [] ∧ t.next.invocation? = none ∧
      ∃ r d, m = .request r (.started q.handle d) ∧ r.client? = some q.client := by
  cases he with
  | browsing =>
    rw [hs.browses.values_insert] at hq
    refine (List.mem_append.mp hq).imp_right fun hnew => ?_
    obtain rfl := List.mem_singleton.mp hnew
    exact ⟨rfl, rfl, _, _, rfl, rfl⟩
  | cancelled => exact .inl (RequestTable.mem_values_of_mem_erase hq)
  | closed => cases hq
  | idle | refused | announced | orphaned | resolving => exact .inl hq
  | confirmed | lost | lostFaulty | browseFailed | appeared | vanished | answered
    | answeredFaulty =>
    exact absurd rfl (hm _ _)

end Transition

namespace History
variable {k : History} {d : Deed} {q q' : BrowseRequest}

theorem eq_of_handle (hq : q ∈ k.loop.session.registry.browses.values)
    (hq' : q' ∈ k.loop.session.registry.browses.values) (h : q'.handle = q.handle) :
    q'.id = q.id := by
  obtain ⟨d, hd, o, ho, -, hhandle, haddress⟩ := k.origins.browse q hq
  have hother :=
    replyTo_of_stems (mem_openings hd ho) ((hhandle.trans h.symm) ▸ k.origins.browse q' hq')
  exact (ReplyTo.browse.inj (haddress.symm.trans hother)).symm

theorem report_of_ticket (hd : d.Follows k.deeds)
    (hsilent : ∀ h r, d.event = .report h r → h ∉ releases (outputsOf k.deeds))
    (hq : q ∈ k.loop.session.registry.browses.values) {id : Int} {r : Reply}
    (hm : d.move = .reply (.browse id) r) (hq' : k.loop.session.registry.browses.get? id = some q')
    (hticket : q'.client.ticket = q.client.ticket) : ∃ r, d.event = .report q.handle r := by
  obtain ⟨o, ho, he, haddress, -⟩ := hd.of_reply hm
  obtain ⟨q₀, hlive, hhandle⟩ := browse_live ho (hsilent o.handle r he) haddress
  have hid : q.id = id := by
    rw [← browse_of_ticket hq (RequestTable.mem_values_of_get? hq') hticket]
    exact k.sound.browses.id_of_get? hq'
  have hget := k.sound.browses.mem_values_iff.mp hq
  rw [hid, hlive] at hget
  obtain rfl := Option.some.inj hget
  exact ⟨r, hhandle ▸ he⟩

theorem untold_of_unreported (hbefore : d.before = k.loop) (hd : d.Follows k.deeds)
    (hsilent : ∀ h r, d.event = .report h r → h ∉ releases (outputsOf k.deeds))
    (hq : q ∈ k.loop.session.registry.browses.values) (hr : ∀ r, d.event ≠ .report q.handle r) :
    told q.client.ticket [d] = [] := by
  obtain hkeeps | ⟨t, he, ht⟩ := Loop.step_cases (hbefore ▸ k.sound) d.faults d.move
  · exact told_of_silent hkeeps.invocations
  have hinv : invocations d.outputs = t.next.invocation?.toList := ht.invocations_eq he
  cases hi : t.next.invocation? with
  | none => exact told_of_silent (by rw [hinv, hi]; rfl)
  | some i =>
    rw [told_of_told (by rw [hinv, hi]; rfl)]
    refine if_neg fun hticket => ?_
    rw [hbefore] at he
    generalize hm : d.move = m at he
    cases he with
    | idle | announced | orphaned | browsing | cancelled | resolving | closed | lostFaulty
      | answeredFaulty => cases hi
    | refused hc =>
      obtain rfl := Next.eq_of_invocation?_tell hi
      obtain ⟨b, hb, hbclient, -⟩ := (k.origins.browse q hq).exists_client rfl
      exact hd.fresh_ticket (hd.client?_of_request hm hc)
        (hticket ▸ List.mem_map_of_mem (Once.mem_clients hb hbclient))
    | confirmed hg =>
      obtain rfl := Next.eq_of_invocation?_tell hi
      obtain ⟨a, ha⟩ := k.origins.registration _ hg
      exact ticket_ne_of_call hq (ha.exists_client rfl) hticket
    | @lost g _ _ _ _ _ _ hg =>
      by_cases hsettled : g.settled = true
      · simp only [hsettled, if_true] at hi
        cases hi
      · simp only [hsettled] at hi
        obtain rfl := Next.eq_of_invocation?_tell hi
        obtain ⟨a, ha⟩ := k.origins.registration _ hg
        exact ticket_ne_of_call hq (ha.exists_client rfl) hticket
    | browseFailed hq' | appeared hq' | vanished hq' =>
      obtain rfl := Next.eq_of_invocation?_tell hi
      obtain ⟨r, hreport⟩ := report_of_ticket hd hsilent hq hm hq' hticket
      exact hr r hreport
    | answered hq' =>
      obtain rfl := Next.eq_of_invocation?_tell hi
      have horigin := k.origins.resolve _ (RequestTable.mem_values_of_get? hq')
      exact ticket_ne_of_call hq (horigin.exists_client rfl) hticket

end History
end ServiceDiscovery
