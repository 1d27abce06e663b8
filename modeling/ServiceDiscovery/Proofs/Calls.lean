import Mathlib.Data.List.Pairwise
import ServiceDiscovery.Proofs.Handles

/-!
Where live requests come from. Each stems from one call, under the handle and the address that the
call opened, so a handle that is held belongs to the request that its address names.
-/
namespace ServiceDiscovery

def Stems (ds : List Deed) (r : Request) (h : Handle) (address : ReplyTo) : Prop :=
  ∃ d ∈ ds, ∃ o ∈ openings d.outputs,
    d.event = .request r (.started h o.descriptor) ∧ o.handle = h ∧ o.request.replyTo = address

theorem Stems.append {ds : List Deed} {r : Request} {h : Handle} {address : ReplyTo}
    (hs : Stems ds r h address) (later : List Deed) : Stems (ds ++ later) r h address := by
  obtain ⟨d, hd, hopened⟩ := hs
  exact ⟨d, List.mem_append_left _ hd, hopened⟩

structure Origins (ds : List Deed) (s : Session) : Prop where
  browse : ∀ q ∈ s.registry.browses.values,
    Stems ds (.browse q.constraints q.client) q.handle (.browse q.id)
  resolve : ∀ q ∈ s.registry.resolves.values,
    Stems ds (.resolve q.target q.client) q.handle (.resolve q.id)
  registration : ∀ g, s.registration = some g →
    ∃ a, Stems ds (.announce a g.client) g.handle .register

theorem Origins.append {ds : List Deed} {s : Session} (ho : Origins ds s) (later : List Deed) :
    Origins (ds ++ later) s := by
  refine ⟨fun q hq => (ho.browse q hq).append later, fun q hq => (ho.resolve q hq).append later, ?_⟩
  intro g hg
  obtain ⟨a, ha⟩ := ho.registration g hg
  exact ⟨a, ha.append later⟩

theorem Transition.origins {faults : CloseFaults} {s : Session} {rs : Records} {m : Move} {t : Turn}
    {ds : List Deed} (he : Transition faults s rs m t) (hs : s.Sound) (ho : Origins ds s)
    (hnew : ∀ r h d asked, m = .request r (.started h d) → openings t.outputs = [⟨h, d, asked⟩] →
      Stems ds r h asked.replyTo) : Origins ds t.session := by
  cases he with
  | idle | refused | orphaned | browseFailed => exact ho
  | announced _ _ _ _ hos =>
    refine ⟨ho.browse, ho.resolve, ?_⟩
    rintro g ⟨⟩
    exact ⟨_, hnew _ _ _ _ rfl hos.openings⟩
  | confirmed hg =>
    refine ⟨ho.browse, ho.resolve, ?_⟩
    rintro g' ⟨⟩
    obtain ⟨a, ha⟩ := ho.registration _ hg
    exact ⟨a, ha⟩
  | lost | lostFaulty => exact ⟨ho.browse, ho.resolve, fun g hg => nomatch hg⟩
  | browsing _ hos =>
    refine ⟨?_, ho.resolve, ho.registration⟩
    intro q hq
    rw [hs.browses.values_insert] at hq
    cases List.mem_append.mp hq with
    | inl hold => exact ho.browse q hold
    | inr hq =>
      obtain rfl := List.mem_singleton.mp hq
      exact hnew _ _ _ _ rfl hos.openings
  | appeared | vanished =>
    refine ⟨?_, ho.resolve, ho.registration⟩
    intro q' hq'
    obtain ⟨q, hq, rfl | rfl⟩ := RequestTable.mem_values_modify hq'
    · exact ho.browse _ hq
    · exact ho.browse q hq
  | cancelled =>
    exact ⟨fun q hq => ho.browse q (RequestTable.mem_values_of_mem_erase hq), ho.resolve,
      ho.registration⟩
  | resolving _ _ hos =>
    refine ⟨ho.browse, ?_, ho.registration⟩
    intro q hq
    rw [hs.resolves.values_insert] at hq
    cases List.mem_append.mp hq with
    | inl hold => exact ho.resolve q hold
    | inr hq =>
      obtain rfl := List.mem_singleton.mp hq
      exact hnew _ _ _ _ rfl hos.openings
  | answered | answeredFaulty =>
    exact ⟨ho.browse, fun q hq => ho.resolve q (RequestTable.mem_values_of_mem_erase hq),
      ho.registration⟩
  | closed =>
    refine ⟨fun q hq => (nomatch hq), fun q hq => (nomatch hq), ?_⟩
    intro g hg
    split at hg
    · cases hg
    · exact ho.registration g hg

namespace History
variable {k : History}

theorem origins (k : History) : Origins k.deeds k.loop.session := by
  refine invariant (P := fun ds s _ => Origins ds s) ?_ ?_ ?_ k
  · intro uuid codec ownsProvider records
    exact ⟨fun q hq => (nomatch hq), fun q hq => (nomatch hq), fun g hg => nomatch hg⟩
  · exact fun k d _ _ _ ho _ => ho.append _
  · intro k d t _ hd ho he ht
    refine he.origins k.sound (ho.append _) ?_
    intro r h descriptor asked hm hopened
    have hopenings : openings d.outputs = [⟨h, descriptor, asked⟩] := ht.openings.trans hopened
    exact ⟨d, by simp, ⟨h, descriptor,
      asked⟩, by simp [hopenings], hd.event_of_request hm, rfl, rfl⟩

theorem mem_openings {d : Deed} {o : Opening} (hd : d ∈ k.deeds) (ho : o ∈ openings d.outputs) :
    o ∈ openings (outputsOf k.deeds) := by
  obtain ⟨out, hout, hopening⟩ := List.mem_filterMap.mp ho
  exact List.mem_filterMap.mpr ⟨out, List.mem_flatMap.mpr ⟨d, hd, hout⟩, hopening⟩

theorem opening_unique {o o' : Opening} (ho : o ∈ openings (outputsOf k.deeds))
    (ho' : o' ∈ openings (outputsOf k.deeds)) (h : o.handle = o'.handle) : o = o' :=
  List.inj_on_of_nodup_map k.returned_nodup ho ho' h

theorem eq_handle_of_call {d : Deed} {r : Request} {h h' : Handle} {descriptor : Int}
    (hd : d ∈ k.deeds) (he : d.event = .request r (.started h descriptor))
    (hh : h' ∈ returned [d]) :
    h' = h := by
  obtain ⟨k', -, -, hloop, hfollows⟩ := exists_at hd
  obtain ⟨o, ho, rfl⟩ := (mem_returned_singleton d).mp hh
  obtain ⟨r', he'⟩ := hfollows.event_of_opening (hloop ▸ k'.sound) ho
  rw [he] at he'
  simp only [Occurrence.request.injEq, StartAnswer.started.injEq] at he'
  exact he'.2.1.symm

theorem opener_unique {d d' : Deed} {o o' : Opening} (hd : d ∈ k.deeds) (hd' : d' ∈ k.deeds)
    (ho : o ∈ openings d.outputs) (ho' : o' ∈ openings d'.outputs) (h : o.handle = o'.handle) :
    d = d' := by
  have hreturned : returned k.deeds = k.deeds.flatMap fun d =>
    (openings d.outputs).map (·.handle) := by
    simp only [returned, openings, outputsOf, List.filterMap_flatMap, List.map_flatMap]
  have hn := k.returned_nodup
  rw [hreturned, List.nodup_flatMap] at hn
  by_contra hne
  have hsymm : Std.Symm
      (Function.onFun List.Disjoint fun d : Deed => (openings d.outputs).map (·.handle)) :=
    ⟨fun _ _ hdisjoint _ hd hd' => hdisjoint hd' hd⟩
  have hapart : List.Disjoint _ _ := hn.2.forall hd hd' hne
  exact hapart (List.mem_map_of_mem ho) (h ▸ List.mem_map_of_mem ho')

/-- The address under which a call was taken up is that of its handle. -/
theorem replyTo_of_stems {r : Request} {address : ReplyTo} {o : Opening}
    (ho : o ∈ openings (outputsOf k.deeds)) (hs : Stems k.deeds r o.handle address) :
    o.request.replyTo = address := by
  obtain ⟨d, hd, o', ho', -, hhandle, haddress⟩ := hs
  obtain rfl := opening_unique (mem_openings hd ho') ho hhandle
  exact haddress

theorem opened_before {d : Deed} {o : Opening} (hbefore : d.before = k.loop)
    (hd : d.Follows k.deeds) (ho : o ∈ openings (outputsOf (k.deeds ++ [d])))
    (hh : o.handle ∈ returned k.deeds) : o ∈ openings (outputsOf k.deeds) := by
  obtain ⟨k', hk', -⟩ := exists_after hbefore hd
  obtain ⟨o', ho', hhandle⟩ := List.mem_map.mp hh
  have hmem : o' ∈ openings (outputsOf k'.deeds) := by
    rw [hk', outputsOf_append, openings_append]
    exact List.mem_append_left _ ho'
  obtain rfl := opening_unique hmem (hk' ▸ ho) hhandle
  exact ho'

theorem holder {o : Opening} (ho : o ∈ openings (outputsOf k.deeds))
    (hheld : o.handle ∈ k.loop.session.held) :
    match o.request.replyTo with
    | .browse id => ∃ q, k.loop.session.registry.browses.get? id = some q ∧ q.handle = o.handle
    | .resolve id => ∃ q, k.loop.session.registry.resolves.get? id = some q ∧ q.handle = o.handle
    | .register => ∃ g, k.loop.session.registration = some g ∧ g.handle = o.handle := by
  simp only [Session.held, List.mem_append, List.mem_map, Option.mem_toList] at hheld
  obtain (⟨q, hq, hhandle⟩ | ⟨q, hq, hhandle⟩) | ⟨g, hg, hhandle⟩ := hheld
  · have haddress := replyTo_of_stems ho (hhandle ▸ k.origins.browse q hq)
    rw [haddress]
    exact ⟨q, k.sound.browses.mem_values_iff.mp hq, hhandle⟩
  · have haddress := replyTo_of_stems ho (hhandle ▸ k.origins.resolve q hq)
    rw [haddress]
    exact ⟨q, k.sound.resolves.mem_values_iff.mp hq, hhandle⟩
  · obtain ⟨a, ha⟩ := k.origins.registration g hg
    have haddress := replyTo_of_stems ho (hhandle ▸ ha)
    rw [haddress]
    exact ⟨g, hg, hhandle⟩

end History
end ServiceDiscovery
