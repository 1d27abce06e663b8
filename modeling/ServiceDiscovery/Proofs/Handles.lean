import ServiceDiscovery.Proofs.History

/-!
Who holds the handles. Every handle that the provider returned and that was not closed belongs to
one live request or to the registration, and these are the handles that the multiplexer watches.
-/
namespace ServiceDiscovery

def Session.held (s : Session) : List Handle :=
  s.registry.browses.values.map (·.handle) ++ s.registry.resolves.values.map (·.handle) ++
    s.registration.toList.map (·.handle)

def TransportsKnown : List Deed → Prop :=
  AtEach fun _ d => ∀ a c answer, d.event = .request (.announce a c) answer →
    (Transport.ofCode? a.transportCode).isSome

def DescriptorsApart : List Deed → Prop :=
  AtEach fun past d => ∀ o ∈ openings d.outputs, ∀ o' ∈ openings (outputsOf past),
    o'.handle ∉ releases (outputsOf past) → o'.descriptor ≠ o.descriptor

inductive Trade (m : Move) (s s' : Session) : List Opening → List Handle → Prop
  | none (hheld : s'.held = s.held) (hmux : s'.mux = s.mux) (hclosed : s'.closed = s.closed) :
      Trade m s s' [] []
  | stray {o a c answer} (hm : m = .request (.announce a c) answer)
      (ho : o.request.replyTo = .register)
      (ht : Transport.ofCode? a.transportCode = .none) (hs : s' = s) : Trade m s s' [o] []
  | take {o} (hopen : s.closed = false) (hheld : s'.held.Perm (o.handle :: s.held))
      (hmux : s'.mux = (s.mux.add o.handle o.descriptor).2) (hclosed : s'.closed = s.closed) :
      Trade m s s' [o] []
  | drop {h} (hheld : s.held.Perm (h :: s'.held)) (hmux : s'.mux = (s.mux.remove h).2)
      (hclosed : s'.closed = s.closed) : Trade m s s' [] [h]
  | clear {hs} (hheld : s.held.Perm hs) (hnone : s'.held = []) (hmux : s'.mux.watched = []) :
      Trade m s s' [] hs

theorem Session.closing_perm {s : Session} {rs : Records} (ho : s.OwnApart rs) :
    s.held.Perm (s.closing rs) := by
  have hregistration :
      (if (s.ownRecord rs).state.isActive then s.registration.toList.map (·.handle) else []) =
      s.registration.toList.map (·.handle) := by
    cases hg : s.registration with
    | none => simp
    | some g => rw [if_pos (ho.state g hg ▸ g.isActive_shows)]
  rw [Session.closing, hregistration]
  exact List.perm_append_comm.append_right _

theorem Transition.trade {faults : CloseFaults} {s : Session} {rs : Records} {m : Move} {t : Turn}
    (he : Transition faults s rs m t) (hs : s.Sound) (ho : s.OwnApart rs) :
    Trade m s t.session (openings t.outputs) (releases t.outputs) := by
  cases he with
  | idle _ hos | refused _ hos | browseFailed _ _ hos =>
    simp only [hos.openings, hos.releases]
    exact .none rfl rfl rfl
  | orphaned ht hos =>
    simp only [hos.openings, hos.releases]
    exact .stray rfl rfl ht rfl
  | announced hopen hidle _ _ hos =>
    have hnone := ho.registration_eq_none hidle
    simp only [hos.openings, hos.releases]
    refine .take hopen ?_ rfl rfl
    simp only [Session.held, hnone, Option.toList_none, Option.toList_some, List.map_nil,
      List.append_nil]
    exact List.perm_append_singleton _ _
  | confirmed hg _ hos =>
    simp only [hos.openings, hos.releases]
    exact .none (by simp [Session.held, hg]) rfl rfl
  | lost hg _ _ hos | lostFaulty hg _ hos =>
    simp only [hos.openings, hos.releases]
    refine .drop ?_ rfl rfl
    simp only [Session.held, hg, Option.toList_none, Option.toList_some, List.map_nil,
      List.append_nil]
    exact List.perm_append_singleton _ _
  | browsing hopen hos =>
    simp only [hos.openings, hos.releases]
    refine .take hopen ?_ rfl rfl
    simp only [Session.held, hs.browses.values_insert, List.map_append, List.append_assoc]
    exact List.perm_middle
  | appeared _ _ _ _ _ hos =>
    simp only [hos.openings, hos.releases]
    refine .none ?_ rfl rfl
    simp only [Session.held]
    rw [RequestTable.values_modify _ _ fun q => q.handle_track _ _]
  | vanished _ _ _ hos =>
    simp only [hos.openings, hos.releases]
    refine .none ?_ rfl rfl
    simp only [Session.held]
    rw [RequestTable.values_modify _ _ fun q => q.handle_drop _]
  | cancelled hq hos =>
    simp only [hos.openings, hos.releases]
    refine .drop ?_ rfl rfl
    exact (((hs.browses.perm_erase hq).map (·.handle)).append_right _).append_right _
  | resolving hopen _ hos =>
    simp only [hos.openings, hos.releases]
    refine .take hopen ?_ rfl rfl
    simp only [Session.held, hs.resolves.values_insert, List.map_append, List.append_assoc]
    exact (List.perm_middle.append_left _).trans List.perm_middle
  | answered hq _ hos | answeredFaulty hq _ hos =>
    simp only [hos.openings, hos.releases]
    refine .drop ?_ rfl rfl
    have hperm := ((hs.resolves.perm_erase hq).map (·.handle)).append_left
      (s.registry.browses.values.map (·.handle))
    exact (hperm.trans List.perm_middle).append_right _
  | closed _ hwatched _ hos =>
    simp only [hos.openings, hos.releases]
    refine .clear (Session.closing_perm ho) ?_ hwatched
    simp only [Session.held, ho.registration_of_closing]
    rfl

/-- Handles held are open and have one holder each, and only such handles are watched. -/
structure Ledger (os : List Output) (s : Session) : Prop where
  nodup : s.held.Nodup
  opened : ∀ h ∈ s.held, h ∈ (openings os).map (·.handle)
  unreleased : ∀ h ∈ s.held, h ∉ releases os
  released : ∀ h ∈ releases os, h ∈ (openings os).map (·.handle)
  watchedOnce : s.mux.handles.Nodup
  watched : ∀ h ∈ s.mux.handles, h ∈ s.held
  pumped : ∀ h ∈ pumps os, h ∈ s.held ∨ h ∈ releases os
  shut : s.closed = true → s.held = [] ∧ s.mux.watched = []

namespace Ledger
variable {os os' : List Output} {s s' : Session} {m : Move}

theorem pass (hl : Ledger os s) (hheld : s'.held = s.held) (hmux : s'.mux = s.mux)
    (hclosed : s'.closed = s.closed) (hreleases : releases os' = [])
    (hpumps : ∀ h ∈ pumps os', h ∈ s.mux.handles) : Ledger (os ++ os') s' := by
  have hreleased : releases (os ++ os') = releases os := by simp [hreleases]
  have hopened : ∀ h ∈ (openings os).map (·.handle), h ∈ (openings (os ++ os')).map (·.handle) := by
    intro h hh
    rw [openings_append, List.map_append]
    exact List.mem_append_left _ hh
  constructor
  · exact hheld ▸ hl.nodup
  · exact fun h hh => hopened h (hl.opened h (hheld ▸ hh))
  · rw [hreleased, hheld]
    exact hl.unreleased
  · rw [hreleased]
    exact fun h hh => hopened h (hl.released h hh)
  · exact hmux ▸ hl.watchedOnce
  · rw [hmux, hheld]
    exact hl.watched
  · rw [hreleased, hheld, pumps_append]
    intro h hh
    cases List.mem_append.mp hh with
    | inl hold => exact hl.pumped h hold
    | inr hnew => exact .inl (hl.watched h (hpumps h hnew))
  · rw [hclosed, hheld, hmux]
    exact hl.shut

theorem take (hl : Ledger os s) (hs : s.Sound) {o : Opening} (hopenings : openings os' = [o])
    (hreleases : releases os' = []) (hpumps : pumps os' = [])
    (hfresh : o.handle ∉ (openings os).map (·.handle)) (hopen : s.closed = false)
    (hheld : s'.held.Perm (o.handle :: s.held))
    (hmux : s'.mux = (s.mux.add o.handle o.descriptor).2) (hclosed : s'.closed = s.closed) :
    Ledger (os ++ os') s' := by
  have hm := hs.inStep hopen
  have hmem (h : Handle) : h ∈ s'.held ↔ h = o.handle ∨ h ∈ s.held := by
    rw [hheld.mem_iff, List.mem_cons]
  have hunheld : o.handle ∉ s.held := fun hh => hfresh (hl.opened _ hh)
  have hreleased : releases (os ++ os') = releases os := by simp [hreleases]
  have hopened (h : Handle) : h ∈ (openings (os ++ os')).map (·.handle) ↔
      h ∈ (openings os).map (·.handle) ∨ h = o.handle := by
    rw [openings_append, hopenings, List.map_append, List.mem_append, List.map_singleton,
      List.mem_singleton]
  constructor
  · exact hheld.nodup_iff.mpr (List.nodup_cons.mpr ⟨hunheld, hl.nodup⟩)
  · intro h hh
    rw [hopened]
    exact ((hmem h).mp hh).symm.imp_left (hl.opened h)
  · rw [hreleased]
    intro h hh hclosed
    obtain rfl | hold := (hmem h).mp hh
    · exact hfresh (hl.released _ hclosed)
    · exact hl.unreleased h hold hclosed
  · rw [hreleased]
    exact fun h hh => (hopened h).mpr (.inl (hl.released h hh))
  · rw [hmux]
    exact hm.nodup_handles_add hl.watchedOnce fun hh => hunheld (hl.watched _ hh)
  · rw [hmux]
    exact fun h hh => (hmem h).mpr ((hm.mem_handles_add hh).imp_right (hl.watched h))
  · rw [hreleased, pumps_append, hpumps, List.append_nil]
    exact fun h hh => (hl.pumped h hh).imp_left fun hold => (hmem h).mpr (.inr hold)
  · rw [hclosed, hopen]
    exact fun hshut => nomatch hshut

theorem open_of_mem (hl : Ledger os s) {h : Handle} (hh : h ∈ s.held) : s.closed = false := by
  by_contra hshut
  rw [(hl.shut (by simpa using hshut)).1] at hh
  cases hh

theorem drop (hl : Ledger os s) (hs : s.Sound) {h : Handle}
    (hopenings : openings os' = []) (hreleases : releases os' = [h]) (hpumps : pumps os' = [])
    (hheld : s.held.Perm (h :: s'.held)) (hmux : s'.mux = (s.mux.remove h).2)
    (hclosed : s'.closed = s.closed) : Ledger (os ++ os') s' := by
  have hmem (h' : Handle) : h' ∈ s.held ↔ h' = h ∨ h' ∈ s'.held := by
    rw [hheld.mem_iff, List.mem_cons]
  have hopen := hl.open_of_mem ((hmem h).mpr (.inl rfl))
  obtain ⟨hgone, hnodup⟩ := List.nodup_cons.mp (hheld.nodup_iff.mp hl.nodup)
  have hhandles : s'.mux.handles = s.mux.handles.filter (· != h) := by
    rw [hmux, Multiplexer.handles_remove (hs.inStep hopen) hl.watchedOnce]
  have hopened : openings (os ++ os') = openings os := by simp [hopenings]
  have hreleased : releases (os ++ os') = releases os ++ [h] := by simp [hreleases]
  constructor
  · exact hnodup
  · rw [hopened]
    exact fun h' hh => hl.opened h' ((hmem h').mpr (.inr hh))
  · rw [hreleased]
    intro h' hh hout
    cases List.mem_append.mp hout with
    | inl hold => exact hl.unreleased h' ((hmem h').mpr (.inr hh)) hold
    | inr hnew => exact hgone (List.mem_singleton.mp hnew ▸ hh)
  · rw [hopened, hreleased]
    intro h' hh
    cases List.mem_append.mp hh with
    | inl hold => exact hl.released h' hold
    | inr hnew => exact hl.opened h' ((hmem h').mpr (.inl (List.mem_singleton.mp hnew)))
  · rw [hhandles]
    exact hl.watchedOnce.filter _
  · rw [hhandles]
    intro h' hh
    obtain ⟨hold, hne⟩ := List.mem_filter.mp hh
    exact ((hmem h').mp (hl.watched h' hold)).resolve_left (by simpa using hne)
  · rw [hreleased, pumps_append, hpumps, List.append_nil]
    intro h' hh
    cases hl.pumped h' hh with
    | inl hold =>
      obtain rfl | hkept := (hmem h').mp hold
      · exact .inr (by simp)
      · exact .inl hkept
    | inr hout => exact .inr (List.mem_append_left _ hout)
  · rw [hclosed, hopen]
    exact fun hshut => nomatch hshut

theorem clear (hl : Ledger os s) (hopenings : openings os' = []) (hpumps : pumps os' = [])
    (hheld : s.held.Perm (releases os')) (hnone : s'.held = []) (hmux : s'.mux.watched = []) :
    Ledger (os ++ os') s' := by
  have hhandles : s'.mux.handles = [] := by simp [Multiplexer.handles, hmux]
  have hopened : openings (os ++ os') = openings os := by simp [hopenings]
  constructor
  · simp [hnone]
  · simp [hnone]
  · simp [hnone]
  · rw [hopened, releases_append]
    intro h hh
    cases List.mem_append.mp hh with
    | inl hold => exact hl.released h hold
    | inr hnew => exact hl.opened h (hheld.mem_iff.mpr hnew)
  · simp [hhandles]
  · simp [hhandles]
  · rw [releases_append, pumps_append, hpumps, List.append_nil]
    intro h hh
    refine .inr (List.mem_append.mpr ?_)
    exact (hl.pumped h hh).symm.imp_right hheld.mem_iff.mp
  · exact fun _ => ⟨hnone, hmux⟩

theorem trade (hl : Ledger os s) (hs : s.Sound) (ht : Trade m s s' (openings os') (releases os'))
    (hpumps : pumps os' = [])
    (hfresh : ∀ o ∈ openings os', o.handle ∉ (openings os).map (·.handle)) :
    Ledger (os ++ os') s' := by
  generalize hopenings : openings os' = opened at ht
  generalize hreleases : releases os' = closed at ht
  rw [hopenings] at hfresh
  have hstill : ∀ h ∈ pumps os', h ∈ s.mux.handles := by simp [hpumps]
  cases ht with
  | none hheld hmux hclosed => exact hl.pass hheld hmux hclosed hreleases hstill
  | stray _ _ _ hs =>
    subst hs
    exact hl.pass rfl rfl rfl hreleases hstill
  | take hopen hheld hmux hclosed =>
    exact hl.take hs hopenings hreleases hpumps (hfresh _ (by simp)) hopen hheld hmux hclosed
  | drop hheld hmux hclosed => exact hl.drop hs hopenings hreleases hpumps hheld hmux hclosed
  | clear hheld hnone hmux => exact hl.clear hopenings hpumps (hreleases ▸ hheld) hnone hmux

end Ledger

namespace History

theorem ledger (k : History) : Ledger (outputsOf k.deeds) k.loop.session := by
  refine invariant (P := fun ds s _ => Ledger (outputsOf ds) s) ?_ ?_ ?_ k
  · intro uuid codec ownsProvider records
    refine ⟨List.nodup_nil, ?_, ?_, ?_, List.nodup_nil, ?_, ?_, fun h => nomatch h⟩ <;>
      exact fun h hh => nomatch hh
  · rintro k d - - - hl hkeeps
    rw [outputsOf_append, outputsOf_singleton]
    exact hl.pass rfl rfl rfl hkeeps.releases hkeeps.pumps
  · rintro k d t - hd hl he ht
    rw [outputsOf_append, outputsOf_singleton]
    refine hl.trade k.sound (m := d.move) ?_ (ht.pumps.trans he.accounts.pumps) ?_
    · rw [ht.openings, ht.releases]
      exact he.trade k.sound k.ownApart
    · intro o ho
      rw [ht.openings] at ho
      obtain ⟨r, hm⟩ := he.opened ho
      exact hd.fresh_handle (hd.event_of_request hm)

theorem notMem_pumps {k : History} {past rest : List Deed} {d : Deed} {h : Handle}
    (hk : k.deeds = past ++ d :: rest) (hclosed : h ∈ releases (outputsOf past)) :
    h ∉ pumps d.outputs := by
  obtain ⟨k', rfl, hloop, -⟩ := exists_before hk
  intro hh
  obtain hkeeps | ⟨t, he, ht⟩ := Loop.step_cases (hloop ▸ k'.sound) d.faults d.move
  · have hwatched := hkeeps.pumps h hh
    rw [← hloop] at hwatched
    exact k'.ledger.unreleased h (k'.ledger.watched h hwatched) hclosed
  · have hnone : pumps d.outputs = [] := ht.pumps.trans he.accounts.pumps
    rw [hnone] at hh
    cases hh

/-- What holds of new sessions and is kept by every trade holds of every history. -/
theorem traded {P : List Deed → Session → Prop}
    (start : ∀ uuid codec ownsProvider records,
      P [] (Loop.start uuid codec ownsProvider records).session)
    (trade : ∀ (k : History) d s', d.before = k.loop → d.Follows k.deeds →
      P k.deeds k.loop.session →
      Trade d.move k.loop.session s' (openings d.outputs) (releases d.outputs) →
      P (k.deeds ++ [d]) s')
    (k : History) : P k.deeds k.loop.session := by
  refine invariant (P := fun ds s _ => P ds s) start ?_ ?_ k
  · intro k d hbefore hd _ hP hkeeps
    have hopenings : openings d.outputs = [] := hkeeps.openings
    have hreleases : releases d.outputs = [] := hkeeps.releases
    refine trade k d _ hbefore hd hP ?_
    rw [hopenings, hreleases]
    exact .none rfl rfl rfl
  · intro k d t hbefore hd hP he ht
    have hopenings : openings d.outputs = openings t.outputs := ht.openings
    have hreleases : releases d.outputs = releases t.outputs := ht.releases
    refine trade k d _ hbefore hd hP ?_
    rw [hopenings, hreleases]
    exact he.trade k.sound k.ownApart

theorem returned_nodup (k : History) : (returned k.deeds).Nodup := by
  refine traded (P := fun ds _ => (returned ds).Nodup) ?_ ?_ k
  · exact fun _ _ _ _ => List.nodup_nil
  · intro k d s' hbefore hd hn htrade
    have hfresh : ∀ o ∈ openings d.outputs, o.handle ∉ returned k.deeds := by
      intro o ho
      obtain ⟨r, he⟩ := hd.event_of_opening (hbefore ▸ k.sound) ho
      exact hd.fresh_handle he
    simp only [returned, outputsOf_append, outputsOf_singleton, openings_append, List.map_append]
    generalize openings d.outputs = opened at htrade hfresh
    generalize releases d.outputs = closed at htrade
    have hone (o : Opening) (hopened : opened = [o]) :
        ((openings (outputsOf k.deeds)).map (·.handle) ++ opened.map (·.handle)).Nodup := by
      subst hopened
      exact (List.perm_append_singleton _ _).nodup_iff.mpr
        (List.nodup_cons.mpr ⟨hfresh o (by simp), hn⟩)
    cases htrade with
    | none | drop | clear => simpa [returned] using hn
    | stray | take => exact hone _ rfl

/-- No open handle goes astray, save that of an announcement with an unknown transport. -/
theorem mem_held (k : History) : ∀ o ∈ openings (outputsOf k.deeds),
    o.handle ∉ releases (outputsOf k.deeds) →
    (o.request.replyTo = .register → TransportsKnown k.deeds) → o.handle ∈ k.loop.session.held := by
  refine traded (P := fun ds s => ∀ o ∈ openings (outputsOf ds),
    o.handle ∉ releases (outputsOf ds) →
    (o.request.replyTo = .register → TransportsKnown ds) → o.handle ∈ s.held) ?_ ?_ k
  · exact fun _ _ _ _ o ho => nomatch ho
  · rintro k d s' - hd hP htrade o ho hout hknown
    simp only [outputsOf_append, outputsOf_singleton, openings_append, releases_append,
      List.mem_append, not_or] at ho hout
    have hold (ho : o ∈ openings (outputsOf k.deeds)) : o.handle ∈ k.loop.session.held :=
      hP o ho hout.1 fun hregister => (atEach_concat.mp (hknown hregister)).1
    generalize openings d.outputs = opened at htrade ho
    generalize releases d.outputs = closed at htrade hout
    cases htrade with
    | none hheld => exact hheld ▸ hold (ho.resolve_right fun hnew => nomatch hnew)
    | stray hm hregister hunknown hs =>
      cases ho with
      | inl ho => exact hs ▸ hold ho
      | inr hnew =>
        obtain rfl := List.mem_singleton.mp hnew
        have hsome := (atEach_concat.mp (hknown hregister)).2 _ _ _ (hd.event_of_request hm)
        rw [hunknown] at hsome
        cases hsome
    | take _ hheld =>
      cases ho with
      | inl ho => exact hheld.mem_iff.mpr (List.mem_cons_of_mem _ (hold ho))
      | inr hnew =>
        obtain rfl := List.mem_singleton.mp hnew
        exact hheld.mem_iff.mpr List.mem_cons_self
    | drop hheld =>
      have hmem := hheld.mem_iff.mp (hold (ho.resolve_right fun hnew => nomatch hnew))
      exact (List.mem_cons.mp hmem).resolve_left (by simpa using hout.2)
    | clear hheld =>
      exact absurd (hheld.mem_iff.mp (hold (ho.resolve_right fun hnew => nomatch hnew))) hout.2

theorem exists_opening_of_watched (k : History) : ∀ e ∈ k.loop.session.mux.watched,
    ∃ o ∈ openings (outputsOf k.deeds), o.handle = e.2 ∧ o.descriptor = e.1 := by
  refine traded (P := fun ds s => ∀ e ∈ s.mux.watched,
    ∃ o ∈ openings (outputsOf ds), o.handle = e.2 ∧ o.descriptor = e.1) ?_ ?_ k
  · exact fun _ _ _ _ _ he => nomatch he
  · rintro k d s' - hd hP htrade e he
    rw [outputsOf_append, outputsOf_singleton, openings_append]
    have hold (he : e ∈ k.loop.session.mux.watched) :
        ∃ o ∈ openings (outputsOf k.deeds) ++ openings d.outputs, o.handle = e.2 ∧
          o.descriptor = e.1 := by
      obtain ⟨o, ho, heq⟩ := hP e he
      exact ⟨o, List.mem_append_left _ ho, heq⟩
    generalize openings d.outputs = opened at htrade hold ⊢
    generalize releases d.outputs = closed at htrade
    cases htrade with
    | none _ hmux => exact hold (hmux ▸ he)
    | stray _ _ _ hs => exact hold (hs ▸ he)
    | @take o hopen _ hmux =>
      rw [hmux, ((k.sound.inStep hopen).add _ _).2.2.2.mem_iff] at he
      obtain rfl | he := List.mem_cons.mp he
      · exact ⟨o, by simp, rfl, rfl⟩
      · exact hold (List.mem_of_mem_filter he)
    | drop _ hmux => exact hold ((Multiplexer.watched_remove_sublist _ _).subset (hmux ▸ he))
    | clear _ _ hmux => simp [hmux] at he

theorem mem_watched (k : History) (hk : DescriptorsApart k.deeds) :
    ∀ h ∈ k.loop.session.held, h ∈ k.loop.session.mux.handles := by
  refine traded (P := fun ds s => DescriptorsApart ds → ∀ h ∈ s.held, h ∈ s.mux.handles) ?_ ?_ k hk
  · exact fun _ _ _ _ _ _ hh => nomatch hh
  · rintro k d s' - hd hP htrade hk h hh
    obtain ⟨hk, hapart⟩ := atEach_concat.mp hk
    have hl := k.ledger
    have hold := hP hk h
    generalize openings d.outputs = opened at htrade hapart
    generalize releases d.outputs = closed at htrade
    cases htrade with
    | none hheld hmux => exact hmux ▸ hold (hheld ▸ hh)
    | stray _ _ _ hs => exact hs ▸ hold (hs ▸ hh)
    | @take o hopen hheld hmux =>
      -- the descriptor is of no watched handle, so watching the new one displaces none
      have hfree : o.descriptor ∉ k.loop.session.mux.watched.map (·.1) := by
        intro hmem
        obtain ⟨e, he, hdescriptor⟩ := List.mem_map.mp hmem
        obtain ⟨o', ho', hhandle, hdescriptor'⟩ := k.exists_opening_of_watched e he
        have hheld' := hl.watched o'.handle (hhandle ▸ List.mem_map_of_mem he)
        exact hapart o (by simp) o' ho' (hl.unreleased _ hheld') (hdescriptor'.trans hdescriptor)
      have hperm := ((k.sound.inStep hopen).perm_add_of_notMem (h := o.handle) hfree).map (·.2)
      rw [hmux, Multiplexer.handles, hperm.mem_iff]
      exact List.mem_cons.mpr ((List.mem_cons.mp (hheld.mem_iff.mp hh)).imp_right hold)
    | @drop h' hheld hmux =>
      have hmem := hheld.mem_iff.mpr (List.mem_cons_of_mem _ hh)
      obtain ⟨hgone, -⟩ := List.nodup_cons.mp (hheld.nodup_iff.mp hl.nodup)
      rw [hmux, Multiplexer.handles_remove (k.sound.inStep (hl.open_of_mem hmem)) hl.watchedOnce]
      refine List.mem_filter.mpr ⟨hold hmem, ?_⟩
      simpa using fun heq : h = h' => hgone (heq ▸ hh)
    | clear _ hnone => simp [hnone] at hh

/-- When closing a handle fails with system errors at most, an active own record has a
registration. -/
theorem isSome_registration (k : History) (hk : OnlySystemFaults k.deeds)
    (hactive : (k.loop.session.ownRecord k.loop.records).state.isActive = true) :
    k.loop.session.registration.isSome := by
  refine invariant (P := fun ds s rs => OnlySystemFaults ds →
    (s.ownRecord rs).state.isActive = true → s.registration.isSome) ?_ ?_ ?_ k hk hactive
  · intro uuid codec ownsProvider records _ hactive
    simp [Loop.start, Session.ownRecord, Records.get, Record.named, Record.new,
      ServiceState.isActive]
      at hactive
  · exact fun k d _ _ _ hP _ hk => hP (atEach_concat.mp hk).1
  · rintro k d t - - hP he - hk
    obtain ⟨hk, hfaults⟩ := atEach_concat.mp hk
    exact he.isSome_registration k.ownApart (CloseFaults.escaping_eq_none hfaults) (hP hk)

/-- Handles have owners: those that live requests and the registration hold are pairwise distinct,
they are the ones returned and not closed, they are the ones watched, and there is a registration
just while the own record is active. -/
theorem handles_have_owners (k : History) (htransports : TransportsKnown k.deeds)
    (hdescriptors : DescriptorsApart k.deeds) (hfaults : OnlySystemFaults k.deeds) :
    k.loop.session.held.Nodup ∧
    (∀ h, h ∈ k.loop.session.held ↔ h ∈ returned k.deeds ∧ h ∉ releases (outputsOf k.deeds)) ∧
    k.loop.session.held.Perm k.loop.session.mux.handles ∧
    (k.loop.session.registration.isSome ↔
      (k.loop.session.ownRecord k.loop.records).state.isActive = true) := by
  have hl := k.ledger
  refine ⟨hl.nodup, fun h => ⟨fun hh => ⟨hl.opened h hh, hl.unreleased h hh⟩, ?_⟩, ?_, ?_, ?_⟩
  · rintro ⟨hopened, hopen⟩
    obtain ⟨o, ho, rfl⟩ := List.mem_map.mp hopened
    exact k.mem_held o ho hopen fun _ => htransports
  · rw [List.perm_ext_iff_of_nodup hl.nodup hl.watchedOnce]
    exact fun h => ⟨k.mem_watched hdescriptors h, hl.watched h⟩
  · intro hsome
    obtain ⟨g, hg⟩ := Option.isSome_iff_exists.mp hsome
    rw [k.ownApart.state g hg, g.isActive_shows]
  · exact k.isSome_registration hfaults

theorem descriptorsApart_add {k : History} {faults : CloseFaults} {e : Occurrence}
    (hk : DescriptorsApart k.deeds)
    (he : ∀ r h descriptor, e = .request r (.started h descriptor) →
      ∀ o ∈ openings (outputsOf k.deeds), o.handle ∉ releases (outputsOf k.deeds) →
      o.descriptor ≠ descriptor) : DescriptorsApart (k.add faults e).deeds := by
  refine atEach_add hk fun m hm o ho => ?_
  obtain ⟨r, hevent⟩ := hm.event_of_opening k.sound ho
  exact he r _ _ hevent

def threefold : History :=
  ((((start "A" {} false {}).add {} (.request (.browse {} { ticket := 1 }) (.started 1 10))).add {}
    (.request (.announce { port := 9, namePrefix := "/a" } { ticket := 2 }) (.started 2 11))).add {}
    (.report 1 (.browse 2 0 0 "B" (some "_ndn._udp") (some "local")))).add {}
    (.request (.resolve 1 { ticket := 3 }) (.started 3 12))

theorem handles_have_owners_threefold : threefold.loop.session.held = [1, 3, 2] ∧
    (∀ h, h ∈ threefold.loop.session.held ↔
      h ∈ returned threefold.deeds ∧ h ∉ releases (outputsOf threefold.deeds)) ∧
    threefold.loop.session.held.Perm threefold.loop.session.mux.handles := by
  have htransports : TransportsKnown threefold.deeds := by
    refine atEach_add (atEach_add (atEach_add (atEach_add (atEach_start _ _ _ _) ?_) ?_) ?_) ?_ <;>
      rintro m - a c answer ⟨⟩
    rfl
  have hdescriptors : DescriptorsApart threefold.deeds := by
    refine descriptorsApart_add (descriptorsApart_add (descriptorsApart_add (descriptorsApart_add
      (atEach_start _ _ _ _) ?_) ?_) ?_) ?_ <;> rintro r h descriptor ⟨⟩ <;> decide +kernel
  have hfaults : OnlySystemFaults threefold.deeds := by
    refine atEach_add (atEach_add (atEach_add (atEach_add (atEach_start _ _ _ _) ?_) ?_) ?_) ?_ <;>
      exact fun m hm h f hf => nomatch hf
  obtain ⟨-, hiff, hperm, -⟩ := threefold.handles_have_owners htransports hdescriptors hfaults
  exact ⟨by decide +kernel, hiff, hperm⟩

end History
end ServiceDiscovery
