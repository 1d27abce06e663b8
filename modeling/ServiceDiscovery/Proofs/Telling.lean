import Mathlib.Data.List.Perm.Subperm
import ServiceDiscovery.Proofs.Calls

/-!
Who has been told. A client that announces or resolves waits until it is told, which takes it off
the waiting list, so it is told once at most.
-/
namespace ServiceDiscovery

def Registration.waiting? (g : Registration) : Option Client :=
  if g.settled then none else some g.client

def Session.waiting (s : Session) : List Client :=
  s.registry.resolves.values.map (·.client) ++ (s.registration.bind Registration.waiting?).toList

namespace Session
variable {s : Session} {g : Registration}

theorem waiting_of_none (hg : s.registration = none) :
    s.waiting = s.registry.resolves.values.map (·.client) := by
  simp [waiting, hg]

theorem waiting_of_settled (hg : s.registration = some g) (hsettled : g.settled = true) :
    s.waiting = s.registry.resolves.values.map (·.client) := by
  simp [waiting, hg, Registration.waiting?, hsettled]

theorem waiting_of_unsettled (hg : s.registration = some g) (hunsettled : g.settled = false) :
    s.waiting = s.registry.resolves.values.map (·.client) ++ [g.client] := by
  simp [waiting, hg, Registration.waiting?, hunsettled]

end Session

def told (ticket : Nat) (ds : List Deed) : List Invocation :=
  (invocations (outputsOf ds)).filter (·.client.ticket == ticket)

def Reported (ds : List Deed) (h : Handle) : Prop := ∃ d ∈ ds, ∃ r, d.event = .report h r

theorem reported_append {a b : List Deed} {h : Handle} :
    Reported (a ++ b) h ↔ Reported a h ∨ Reported b h := by
  simp only [Reported, List.mem_append, or_and_right, exists_or]

theorem reported_singleton {d : Deed} {h : Handle} :
    Reported [d] h ↔ ∃ r, d.event = .report h r := by
  simp [Reported]

/-- What a turn does about clients that wait: it tells none, lets one wait, refuses one at once,
settles with one that waited, or tells the client of a browse. -/
inductive Telling (m : Move) (s s' : Session) : Option Invocation → Prop
  | silent (hw : s'.waiting.Subperm s.waiting) : Telling m s s' none
  | asked {c r answer} (hm : m = .request r answer) (hc : r.client? = some c)
      (hw : s'.waiting.Perm (c :: s.waiting)) : Telling m s s' none
  | refused {c what r answer} (hm : m = .request r answer) (hc : r.client? = some c)
      (hw : s'.waiting = s.waiting) : Telling m s s' (some ⟨c, what⟩)
  | settled {c what} (hw : s.waiting.Perm (c :: s'.waiting)) : Telling m s s' (some ⟨c, what⟩)
  | browse {q what} (hq : q ∈ s.registry.browses.values) (hw : s'.waiting = s.waiting) :
      Telling m s s' (some ⟨q.client, what⟩)

namespace Telling
variable {m : Move} {s s' : Session} {c : Client} {what : Notification} {o : Outcome}

theorem refused_tell {r : Request} {answer : StartAnswer} (hm : m = .request r answer)
    (hc : r.client? = some c) (hw : s'.waiting = s.waiting) :
    Telling m s s' (Next.tell c what o).invocation? := by
  rw [Next.invocation?_tell]
  split
  · exact .refused hm hc hw
  · exact .silent (hw ▸ List.Subperm.refl _)

theorem settled_tell (hw : s.waiting.Perm (c :: s'.waiting)) :
    Telling m s s' (Next.tell c what o).invocation? := by
  rw [Next.invocation?_tell]
  split
  · exact .settled hw
  · exact .silent ((List.sublist_cons_self _ _).subperm.trans hw.symm.subperm)

theorem browse_tell {q : BrowseRequest} (hq : q ∈ s.registry.browses.values)
    (hw : s'.waiting = s.waiting) : Telling m s s' (Next.tell q.client what o).invocation? := by
  rw [Next.invocation?_tell]
  split
  · exact .browse hq hw
  · exact .silent (hw ▸ List.Subperm.refl _)

end Telling

open Session in
theorem Transition.telling {faults : CloseFaults} {s : Session} {rs : Records} {m : Move} {t : Turn}
    (he : Transition faults s rs m t) (hs : s.Sound) (ho : s.OwnApart rs) :
    Telling m s t.session t.next.invocation? := by
  cases he with
  | idle | orphaned | browsing | cancelled => exact .silent (List.Subperm.refl _)
  | refused hc => exact .refused_tell rfl hc rfl
  | announced _ hidle =>
    refine .asked rfl rfl ?_
    rw [waiting_of_unsettled rfl rfl, waiting_of_none (ho.registration_eq_none hidle)]
    exact List.perm_append_singleton _ _
  | @confirmed g _ _ _ _ _ hg hstate =>
    have hunsettled : g.settled = false := by
      rw [← Bool.not_eq_true, ho.settled_iff hg]
      exact hstate
    refine .settled_tell ?_
    rw [waiting_of_unsettled hg hunsettled, waiting_of_settled rfl rfl]
    exact List.perm_append_singleton _ _
  | @lost g _ _ _ _ _ _ hg =>
    by_cases hsettled : g.settled = true
    · simp only [hsettled, if_true]
      refine .silent ?_
      rw [waiting_of_settled hg hsettled, waiting_of_none rfl]
    · have hunsettled : g.settled = false := by simpa using hsettled
      simp only [hsettled]
      refine .settled_tell ?_
      rw [waiting_of_unsettled hg hunsettled, waiting_of_none rfl]
      exact List.perm_append_singleton _ _
  | lostFaulty hg =>
    refine .silent ?_
    rw [waiting_of_none rfl]
    exact (List.sublist_append_left _ _).subperm
  | browseFailed hq => exact .browse_tell (RequestTable.mem_values_of_get? hq) rfl
  | appeared hq => exact .browse_tell (RequestTable.mem_values_of_get? hq) rfl
  | vanished hq => exact .browse_tell (RequestTable.mem_values_of_get? hq) rfl
  | resolving =>
    refine .asked rfl rfl ?_
    simp only [waiting, hs.resolves.values_insert, List.map_append, List.append_assoc]
    exact List.perm_middle
  | answered hq =>
    exact .settled_tell (((hs.resolves.perm_erase hq).map (·.client)).append_right _)
  | answeredFaulty hq =>
    refine .silent ?_
    have hperm := ((hs.resolves.perm_erase hq).map (·.client)).append_right
      (s.registration.bind Registration.waiting?).toList
    exact (List.sublist_cons_self _ _).subperm.trans hperm.symm.subperm
  | closed =>
    refine .silent ?_
    rw [waiting_of_none ho.registration_of_closing]
    exact List.nil_subperm

theorem told_append (ticket : Nat) (a b : List Deed) :
    told ticket (a ++ b) = told ticket a ++ told ticket b := by
  simp [told]

theorem told_of_silent {ticket : Nat} {d : Deed} (h : invocations d.outputs = []) :
    told ticket [d] = [] := by
  simp [told, h]

theorem told_of_told {ticket : Nat} {d : Deed} {i : Invocation} (h : invocations d.outputs = [i]) :
    told ticket [d] = if i.client.ticket = ticket then [i] else [] := by
  simp [told, h, List.filter_cons]

def Request.browses : Request → Bool
  | .browse .. => true
  | _ => false

def Deed.browses (d : Deed) : Bool :=
  match d.event with
  | .request r _ => r.browses
  | _ => false

theorem Stems.exists_client {ds : List Deed} {r : Request} {h : Handle} {address : ReplyTo}
    {c : Client} (hs : Stems ds r h address) (hc : r.client? = some c) :
    ∃ d ∈ ds, d.client? = some c ∧ d.browses = r.browses := by
  obtain ⟨d, hd, o, -, he, -, -⟩ := hs
  refine ⟨d, hd, ?_, ?_⟩
  · rw [Deed.client?, he]
    exact hc
  · rw [Deed.browses, he]

namespace History
variable {k : History}

theorem tickets_nodup (k : History) : ((clients k.deeds).map Client.ticket).Nodup := by
  refine induction (P := fun ds _ => ((clients ds).map Client.ticket).Nodup) ?_ ?_ k
  · exact fun _ _ _ _ => List.nodup_nil
  · intro k d _ hd hn
    rw [clients_append, clients_singleton]
    cases hc : d.client? with
    | none => simpa using hn
    | some c =>
      rw [List.map_append, Option.toList_some, List.map_singleton]
      exact (List.perm_append_singleton _ _).nodup_iff.mpr
        (List.nodup_cons.mpr ⟨hd.fresh_ticket hc, hn⟩)

theorem caller_unique {d d' : Deed} {c c' : Client} (hd : d ∈ k.deeds) (hd' : d' ∈ k.deeds)
    (hc : d.client? = some c) (hc' : d'.client? = some c') (h : c.ticket = c'.ticket) : d = d' := by
  have hn := k.tickets_nodup
  rw [clients, List.Nodup, List.pairwise_map, List.pairwise_filterMap] at hn
  by_contra hne
  have hsymm : Std.Symm fun d d' : Deed => ∀ c, d.client? = some c → ∀ c', d'.client? = some c' →
      c.ticket ≠ c'.ticket := ⟨fun _ _ hapart c hc c' hc' => (hapart c' hc' c hc).symm⟩
  exact hn.forall hd hd' hne c hc c' hc' h

theorem eq_of_stems {d : Deed} {c : Client} {r : Request} {h : Handle} {address : ReplyTo}
    (hd : d ∈ k.deeds) (hclient : d.client? = some c) (hs : Stems k.deeds r h address)
    (hc : r.client? = some c) : ∃ descriptor, d.event = .request r (.started h descriptor) := by
  obtain ⟨d', hd', o, -, he, -, -⟩ := hs
  have hclient' : d'.client? = some c := by
    rw [Deed.client?, he]
    exact hc
  obtain rfl := caller_unique hd hd' hclient hclient' rfl
  exact ⟨_, he⟩

theorem exists_call_of_waiting {c : Client} (hc : c ∈ k.loop.session.waiting) :
    ∃ d ∈ k.deeds, d.client? = some c ∧ d.browses = false := by
  cases List.mem_append.mp hc with
  | inl hresolve =>
    obtain ⟨q, hq, rfl⟩ := List.mem_map.mp hresolve
    exact (k.origins.resolve q hq).exists_client rfl
  | inr hregister =>
    obtain ⟨g, hg, hwaiting⟩ := Option.bind_eq_some_iff.mp (Option.mem_toList.mp hregister)
    rw [Registration.waiting?] at hwaiting
    split at hwaiting
    · cases hwaiting
    · obtain rfl := Option.some.inj hwaiting
      obtain ⟨a, ha⟩ := k.origins.registration g hg
      exact ha.exists_client rfl

theorem ticket_ne_of_call {q : BrowseRequest} {c : Client}
    (hq : q ∈ k.loop.session.registry.browses.values)
    (hcall : ∃ d ∈ k.deeds, d.client? = some c ∧ d.browses = false) :
    c.ticket ≠ q.client.ticket := by
  intro hticket
  obtain ⟨b, hb, hbclient, hbrowses⟩ := (k.origins.browse q hq).exists_client rfl
  obtain ⟨b', hb', hbclient', hbrowses'⟩ := hcall
  obtain rfl := caller_unique hb' hb hbclient' hbclient hticket
  cases hbrowses.symm.trans hbrowses'

end History

structure Once (ds : List Deed) (s : Session) : Prop where
  nodup : (s.waiting.map Client.ticket).Nodup
  untold : ∀ c ∈ s.waiting, told c.ticket ds = []
  known : ∀ i ∈ invocations (outputsOf ds), i.client ∈ clients ds
  once : ∀ d ∈ ds, ∀ c, d.client? = some c → d.browses = false → (told c.ticket ds).length ≤ 1

namespace Once
variable {k : History} {d : Deed} {s' : Session} {c : Client} {what : Notification} {i : Invocation}

theorem told_of_fresh {ds : List Deed} {s : Session} (ho : Once ds s) {ticket : Nat}
    (hfresh : ticket ∉ (clients ds).map Client.ticket) : told ticket ds = [] := by
  refine List.filter_eq_nil_iff.mpr fun i hi hticket => hfresh ?_
  rw [← beq_iff_eq.mp hticket]
  exact List.mem_map_of_mem (ho.known i hi)

theorem mem_clients {ds : List Deed} (hd : d ∈ ds) (hc : d.client? = some c) : c ∈ clients ds :=
  List.mem_filterMap.mpr ⟨d, hd, hc⟩

theorem mem_clients_of_waiting (hc : c ∈ k.loop.session.waiting) : c ∈ clients k.deeds := by
  obtain ⟨d, hd, hclient, -⟩ := History.exists_call_of_waiting hc
  exact mem_clients hd hclient

/-- A client that is told made a call. -/
theorem mem_clients_of_telling (hd : d.Follows k.deeds)
    (ht : Telling d.move k.loop.session s' (some i)) : i.client ∈ clients (k.deeds ++ [d]) := by
  cases ht with
  | refused hm hc _ => exact mem_clients (d := d) (by simp) (hd.client?_of_request hm hc)
  | settled hw =>
    rw [clients_append]
    exact List.mem_append_left _ (mem_clients_of_waiting (hw.mem_iff.mpr List.mem_cons_self))
  | browse hq _ =>
    obtain ⟨d', hd', hclient, -⟩ := (k.origins.browse _ hq).exists_client rfl
    exact mem_clients (List.mem_append_left _ hd') hclient

theorem told_before (ho : Once k.deeds k.loop.session) (hd : d.Follows k.deeds)
    (ht : Telling d.move k.loop.session s' (some i)) {d' : Deed} (hd' : d' ∈ k.deeds)
    (hc : d'.client? = some c) (hbrowse : d'.browses = false)
    (hticket : i.client.ticket = c.ticket) :
    told c.ticket k.deeds = [] := by
  cases ht with
  | refused hm hclient _ =>
    rw [← hticket]
    exact ho.told_of_fresh (hd.fresh_ticket (hd.client?_of_request hm hclient))
  | settled hw => exact hticket ▸ ho.untold _ (hw.mem_iff.mpr List.mem_cons_self)
  | browse hq _ => exact absurd hticket.symm (History.ticket_ne_of_call hq ⟨d', hd', hc, hbrowse⟩)

theorem ticket_ne (ho : Once k.deeds k.loop.session) (hd : d.Follows k.deeds)
    (ht : Telling d.move k.loop.session s' (some i)) (hc : c ∈ s'.waiting) :
    i.client.ticket ≠ c.ticket := by
  cases ht with
  | refused hm hclient hw =>
    intro hticket
    have hold := mem_clients_of_waiting (hw ▸ hc)
    exact hd.fresh_ticket (hd.client?_of_request hm hclient) (hticket ▸ List.mem_map_of_mem hold)
  | settled hw =>
    intro hticket
    obtain ⟨hout, -⟩ := List.nodup_cons.mp ((hw.map Client.ticket).nodup_iff.mp ho.nodup)
    exact hout (hticket ▸ List.mem_map_of_mem hc)
  | browse hq hw =>
    exact (History.ticket_ne_of_call hq (History.exists_call_of_waiting (hw ▸ hc))).symm

theorem mem_waiting {o : Option Invocation} (hd : d.Follows k.deeds)
    (ht : Telling d.move k.loop.session s' o) (hc : c ∈ s'.waiting) :
    c ∈ k.loop.session.waiting ∨ d.client? = some c := by
  cases ht with
  | silent hw => exact .inl (hw.subset hc)
  | asked hm hclient hw =>
    obtain rfl | hold := List.mem_cons.mp (hw.mem_iff.mp hc)
    · exact .inr (hd.client?_of_request hm hclient)
    · exact .inl hold
  | refused _ _ hw | browse _ hw => exact .inl (hw ▸ hc)
  | settled hw => exact .inl (hw.mem_iff.mpr (List.mem_cons_of_mem _ hc))

theorem nodup_step {o : Option Invocation} (ho : Once k.deeds k.loop.session)
    (hd : d.Follows k.deeds) (ht : Telling d.move k.loop.session s' o) :
    (s'.waiting.map Client.ticket).Nodup := by
  cases ht with
  | silent hw =>
    obtain ⟨l, hperm, hsub⟩ := hw
    exact (hperm.map _).nodup_iff.mp ((hsub.map _).nodup ho.nodup)
  | asked hm hclient hw =>
    refine (hw.map _).nodup_iff.mpr (List.nodup_cons.mpr ⟨fun hin => ?_, ho.nodup⟩)
    obtain ⟨c', hc', hticket⟩ := List.mem_map.mp hin
    refine hd.fresh_ticket (hd.client?_of_request hm hclient) ?_
    rw [← hticket]
    exact List.mem_map_of_mem (mem_clients_of_waiting hc')
  | refused _ _ hw | browse _ hw => exact hw ▸ ho.nodup
  | settled hw => exact (List.nodup_cons.mp ((hw.map Client.ticket).nodup_iff.mp ho.nodup)).2

theorem step {o : Option Invocation} (ho : Once k.deeds k.loop.session) (hd : d.Follows k.deeds)
    (ht : Telling d.move k.loop.session s' o) (hinv : invocations d.outputs = o.toList) :
    Once (k.deeds ++ [d]) s' := by
  have hnew (c : Client) (hc : d.client? = some c) : told c.ticket k.deeds = [] :=
    ho.told_of_fresh (hd.fresh_ticket hc)
  have hone (ticket : Nat) : (told ticket [d]).length ≤ 1 := by
    simp only [told, outputsOf_singleton, hinv]
    exact Nat.le_trans (List.length_filter_le _ _) (by cases o <;> simp)
  constructor
  · exact ho.nodup_step hd ht
  · intro c hc
    rw [told_append]
    have hbefore : told c.ticket k.deeds = [] :=
      (mem_waiting hd ht hc).elim (ho.untold c) (hnew c)
    have hnow : told c.ticket [d] = [] := by
      cases o with
      | none => exact told_of_silent hinv
      | some i => rw [told_of_told hinv, if_neg (ho.ticket_ne hd ht hc)]
    rw [hbefore, hnow, List.nil_append]
  · intro i hi
    rw [outputsOf_append, invocations_append, outputsOf_singleton, hinv] at hi
    cases List.mem_append.mp hi with
    | inl hold =>
      rw [clients_append]
      exact List.mem_append_left _ (ho.known i hold)
    | inr hi =>
      obtain rfl := Option.mem_toList.mp hi
      exact mem_clients_of_telling hd ht
  · intro d' hd' c hc hbrowse
    rw [told_append, List.length_append]
    obtain hold | hd' := List.mem_append.mp hd'
    · have hlast := hone c.ticket
      by_cases hnow : told c.ticket [d] = []
      · rw [hnow]
        exact ho.once d' hold c hc hbrowse
      · have hbefore : told c.ticket k.deeds = [] := by
          cases o with
          | none => exact absurd (told_of_silent hinv) hnow
          | some i =>
            rw [told_of_told hinv] at hnow
            exact ho.told_before hd ht hold hc hbrowse (of_not_not fun hne => hnow (if_neg hne))
        rw [hbefore]
        simpa using hlast
    · obtain rfl := List.mem_singleton.mp hd'
      rw [hnew c hc]
      simpa using hone c.ticket

end Once

namespace History

theorem once (k : History) : Once k.deeds k.loop.session := by
  refine invariant (P := fun ds s _ => Once ds s) ?_ ?_ ?_ k
  · intro uuid codec ownsProvider records
    exact ⟨List.nodup_nil, fun c hc => (nomatch hc), fun i hi => (nomatch hi),
      fun d hd => nomatch hd⟩
  · exact fun k d _ hd _ ho hkeeps => ho.step hd (.silent (List.Subperm.refl _)) hkeeps.invocations
  · exact fun k d t _ hd ho he ht =>
      ho.step hd (he.telling k.sound k.ownApart) (ht.invocations_eq he)

theorem client_of_told {k : History} {d : Deed} {c : Client} {i : Invocation} (hd : d ∈ k.deeds)
    (hc : d.client? = some c) (hi : i ∈ told c.ticket k.deeds) : i.client = c := by
  obtain ⟨hi, hticket⟩ := List.mem_filter.mp hi
  exact List.inj_on_of_nodup_map k.tickets_nodup (k.once.known i hi) (Once.mem_clients hd hc)
    (beq_iff_eq.mp hticket)

/-- A call of no browse is told once at most, with its own data. -/
theorem told_once {k : History} {d : Deed} {c : Client} (hd : d ∈ k.deeds) (hc : d.client? = some c)
    (hbrowse : d.browses = false) :
    (told c.ticket k.deeds).length ≤ 1 ∧ ∀ i ∈ told c.ticket k.deeds, i.client = c :=
  ⟨k.once.once d hd c hc hbrowse, fun _ hi => client_of_told hd hc hi⟩

theorem told_eq_singleton {k : History} {d e : Deed} {c : Client} {what : Notification}
    (hd : d ∈ k.deeds) (hc : d.client? = some c) (hbrowse : d.browses = false) (he : e ∈ k.deeds)
    (hinv : invocations e.outputs = [⟨c, what⟩]) : told c.ticket k.deeds = [⟨c, what⟩] := by
  have hmem : (⟨c, what⟩ : Invocation) ∈ told c.ticket k.deeds := by
    refine List.mem_filter.mpr ⟨?_, beq_self_eq_true _⟩
    obtain ⟨out, hout, htold⟩ := List.mem_filterMap.mp (hinv ▸ List.mem_singleton_self _)
    exact List.mem_filterMap.mpr ⟨out, List.mem_flatMap.mpr ⟨e, he, hout⟩, htold⟩
  obtain ⟨hlength, -⟩ := told_once hd hc hbrowse
  obtain ⟨i, hone⟩ := List.length_eq_one_iff.mp
    (Nat.le_antisymm hlength (List.length_pos_of_mem hmem))
  rw [hone] at hmem ⊢
  rw [List.mem_singleton.mp hmem]

theorem mem_returned_of_reported {k : History} {h : Handle} (hreported : Reported k.deeds h) :
    h ∈ returned k.deeds := by
  obtain ⟨d, hd, r, he⟩ := hreported
  obtain ⟨k', rest, hk, -, hfollows⟩ := exists_at hd
  obtain ⟨o, ho, rfl, -⟩ := hfollows.of_report he
  rw [hk, returned_append]
  exact List.mem_append_left _ (List.mem_map_of_mem ho)

theorem not_reported_of_call {k : History} {past mid later : List Deed} {d : Deed} {h : Handle}
    (hk : k.deeds = (past ++ d :: mid) ++ later) (hh : h ∈ returned [d]) (hmid : ¬Reported mid h) :
    ¬Reported (past ++ d :: mid) h := by
  have hk : k.deeds = past ++ d :: (mid ++ later) := by simp [hk]
  obtain ⟨k', rfl, hloop, hfollows⟩ := exists_before hk
  obtain ⟨o, ho, rfl⟩ := (mem_returned_singleton d).mp hh
  obtain ⟨r', he⟩ := hfollows.event_of_opening (hloop ▸ k'.sound) ho
  intro hreported
  obtain hpast | ⟨e, hmem, r, hreport⟩ := reported_append.mp hreported
  · exact hfollows.fresh_handle he (mem_returned_of_reported hpast)
  · obtain rfl | hmem := List.mem_cons.mp hmem
    · cases he.symm.trans hreport
    · exact hmid ⟨e, hmem, r, hreport⟩

/-- After its call, a client that waits is told by a reply to its registration or to its resolve. -/
theorem teller {k : History} {d e : Deed} {c : Client} {h : Handle} {i : Invocation}
    (hbefore : e.before = k.loop) (hfollows : e.Follows k.deeds) (hd : d ∈ k.deeds)
    (hclient : d.client? = some c) (hbrowse : d.browses = false) (hh : h ∈ returned [d])
    (hi : i ∈ invocations e.outputs) (hc : i.client = c) :
    (∃ g r, k.loop.session.registration = some g ∧ g.handle = h ∧ e.move = .reply .register r) ∨
      ∃ id q r, k.loop.session.registry.resolves.get? id = some q ∧ q.handle = h ∧
        e.move = .reply (.resolve id) r := by
  obtain hkeeps | ⟨t, he, ht⟩ := Loop.step_cases (hbefore ▸ k.sound) e.faults e.move
  · have hnone : invocations e.outputs = [] := hkeeps.invocations
    rw [hnone] at hi
    cases hi
  have htold : invocations e.outputs = _ := ht.invocations_eq he
  rw [htold, Option.mem_toList] at hi
  rw [hbefore] at he
  have of_registration (g : Registration) (hg : k.loop.session.registration = some g)
      (hwho : g.client = c) : g.handle = h := by
    obtain ⟨a, ha⟩ := k.origins.registration g hg
    obtain ⟨descriptor, hevent⟩ := eq_of_stems hd hclient ha (congrArg some hwho)
    exact (eq_handle_of_call hd hevent hh).symm
  generalize hm : e.move = m at he
  cases he with
  | idle => cases hi
  | refused hcaller =>
    obtain rfl := Next.eq_of_invocation?_tell hi
    have hfresh :=
      hfollows.fresh_ticket (hfollows.client?_of_request hm (hcaller.trans (congrArg some hc)))
    exact absurd (List.mem_map_of_mem (Once.mem_clients hd hclient)) hfresh
  | announced | orphaned | browsing | cancelled | resolving | closed | lostFaulty
    | answeredFaulty => cases hi
  | confirmed hg =>
    obtain rfl := Next.eq_of_invocation?_tell hi
    exact .inl ⟨_, _, hg, of_registration _ hg hc, rfl⟩
  | @lost g _ _ _ _ _ _ hg =>
    by_cases hsettled : g.settled = true
    · simp only [hsettled, if_true] at hi
      cases hi
    · simp only [hsettled] at hi
      obtain rfl := Next.eq_of_invocation?_tell hi
      exact .inl ⟨_, _, hg, of_registration _ hg hc, rfl⟩
  | browseFailed hq | appeared hq | vanished hq =>
    obtain rfl := Next.eq_of_invocation?_tell hi
    have horigin := k.origins.browse _ (RequestTable.mem_values_of_get? hq)
    obtain ⟨_, hevent⟩ := eq_of_stems hd hclient horigin (congrArg some hc)
    rw [Deed.browses, hevent] at hbrowse
    cases hbrowse
  | answered hq =>
    obtain rfl := Next.eq_of_invocation?_tell hi
    have horigin := k.origins.resolve _ (RequestTable.mem_values_of_get? hq)
    obtain ⟨descriptor, hevent⟩ := eq_of_stems hd hclient horigin (congrArg some hc)
    exact .inr ⟨_, _, _, hq, (eq_handle_of_call hd hevent hh).symm, rfl⟩

/-- If only reports on the handle of a call tell its client, one that was told had such a report. -/
theorem reported_of_told {k : History} {d : Deed} {c : Client} {h : Handle} (hd : d ∈ k.deeds)
    (hclient : d.client? = some c) (hh : h ∈ returned [d])
    (hreport : ∀ (k' : History) e later, k.deeds = (k'.deeds ++ [e]) ++ later → e.before = k'.loop →
      e.Follows k'.deeds → d ∈ k'.deeds → ∀ i ∈ invocations e.outputs, i.client = c →
      ∃ r, e.event = .report h r)
    (htold : told c.ticket k.deeds ≠ []) : Reported k.deeds h := by
  obtain ⟨i, hi⟩ := List.exists_mem_of_ne_nil _ htold
  have hwho := client_of_told hd hclient hi
  obtain ⟨out, hout, hinvocation⟩ := List.mem_filterMap.mp (List.mem_of_mem_filter hi)
  obtain ⟨e, he, hout⟩ := List.mem_flatMap.mp hout
  have hi : i ∈ invocations e.outputs := List.mem_filterMap.mpr ⟨out, hout, hinvocation⟩
  obtain ⟨k', later, hk, hloop, hfollows⟩ := exists_at he
  have hk : k.deeds = (k'.deeds ++ [e]) ++ later := by simp [hk]
  -- the client is one of those that had called when it was told, so its call is not later
  obtain ⟨k'', hk''⟩ := exists_of_append hk
  have hknown := k''.once.known i (by simp [hk'', hi])
  obtain ⟨d', hd', hclient'⟩ := List.mem_filterMap.mp hknown
  rw [hk''] at hd'
  obtain rfl := caller_unique (hk ▸ List.mem_append_left _ hd') hd hclient' hclient
    (congrArg _ hwho)
  cases List.mem_append.mp hd' with
  | inl hold =>
    have hreported := hreport k' e later hk hloop.symm hfollows hold i hi hwho
    rw [hk]
    exact reported_append.mpr (.inl (reported_append.mpr (.inr (reported_singleton.mpr hreported))))
  | inr hnew =>
    obtain rfl := List.mem_singleton.mp hnew
    obtain ⟨o, ho, -⟩ := (mem_returned_singleton _).mp hh
    have hnone := Deed.invocations_of_opening (hloop ▸ k'.sound) ho
    rw [hnone] at hi
    cases hi

end History
end ServiceDiscovery
