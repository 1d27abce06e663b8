import ServiceDiscovery.Proofs.Attribution
import ServiceDiscovery.Proofs.Closing
import ServiceDiscovery.Proofs.Presence

/-!
Which browse the callbacks of a resolve name. It is the one that discovered the record, and it was
live when the resolve was called; a resolve outlives the cancellation of its browse, and so does the
id it names.
-/
namespace ServiceDiscovery

def Notification.resolve? : Notification → Option Int
  | .resolved id _ => some id
  | .failed .resolve id .. => some id
  | _ => none

/-- The deed in which the browse with this id and handle took up a record that there was not
before. -/
def Deed.Discovers (d : Deed) (id : Int) (h : Handle) (target : RecordId) : Prop :=
  d.before.records.nextId = target ∧ ∃ q name, d.before.session.registry.browses.get? id = some q ∧
    q.handle = h ∧ d.after.session.registry.browses.get? id = some (q.track name target)

def Called (ds : List Deed) (q : ResolveRequest) : Prop :=
  ∃ before d mid answer b, ds = before ++ d :: mid ∧
    d.event = .request (.resolve q.target q.client) answer ∧
    d.before.session.tracker? d.before.records q.target = some b ∧ b.id = q.browseId

theorem Called.append {ds : List Deed} {q : ResolveRequest} (hq : Called ds q) (later : List Deed) :
    Called (ds ++ later) q := by
  obtain ⟨before, d, mid, answer, b, rfl, hcall⟩ := hq
  exact ⟨before, d, mid ++ later, answer, b, by simp, hcall⟩

namespace Session
variable {s : Session} {rs : Records} {id : Int} {h : Handle}

theorem Sound.browseHandle?_eq_some_iff (hs : s.Sound) : s.browseHandle? id = some h ↔
    (id, h) ∈ s.registry.browses.values.map fun q => (q.id, q.handle) := by
  simp only [browseHandle?, Option.map_eq_some_iff, List.mem_map, Prod.mk.injEq]
  constructor
  · rintro ⟨q, hq, hh⟩
    exact ⟨q, RequestTable.mem_values_of_get? hq, hs.browses.id_of_get? hq, hh⟩
  · rintro ⟨q, hq, rfl, hh⟩
    exact ⟨q, hs.browses.mem_values_iff.mp hq, hh⟩

theorem Sound.browseHandle?_of_mem (hs : s.Sound) {q : BrowseRequest}
    (hq : q ∈ s.registry.browses.values) : s.browseHandle? q.id = some q.handle :=
  hs.browseHandle?_eq_some_iff.mpr (List.mem_map_of_mem hq)

theorem resolve?_settlement (rs : Records) (q : ResolveRequest) (code : Int)
    (fullname hostTarget : Option String) (port : Int) (txt : Text.Octets) :
    (settlement rs q code fullname hostTarget port txt).2.resolve? = some q.browseId ∧
      ∀ id r, (settlement rs q code fullname hostTarget port txt).2 = .resolved id r →
      r = q.target := by
  obtain ⟨_, _, _, h⟩ | h := settlement_cases rs q code fullname hostTarget port txt
  · rw [h]
    exact ⟨rfl, fun _ _ hwhat => nomatch hwhat⟩
  · rw [h]
    refine ⟨rfl, fun _ _ hwhat => ?_⟩
    cases hwhat
    rfl

end Session

namespace Transition
variable {faults : CloseFaults} {s : Session} {rs : Records} {m : Move} {t : Turn} {id : Int}
  {h : Handle}

theorem browse_kept (he : Transition faults s rs m t) (hs : s.Sound)
    (hlive : s.browseHandle? id = some h) :
    t.session.browseHandle? id = some h ∨ (∃ answer, m = .request (.cancel id) answer) ∨
      t.session.closed = true := by
  have hafter := he.sound hs
  rw [hs.browseHandle?_eq_some_iff] at hlive
  rw [hafter.browseHandle?_eq_some_iff]
  cases he with
  | browsing =>
    simp only [hs.browses.values_insert, List.map_append]
    exact .inl (List.mem_append_left _ hlive)
  | appeared | vanished =>
    refine .inl ?_
    simp only
    rw [RequestTable.values_modify]
    · exact hlive
    · exact fun q => rfl
  | @cancelled q id' answer _ _ hq =>
    have hperm := (hs.browses.perm_erase hq).map fun q => (q.id, q.handle)
    obtain heq | hlive := List.mem_cons.mp (hperm.mem_iff.mp hlive)
    · obtain ⟨rfl, -⟩ := Prod.mk.inj heq
      exact .inr (.inl ⟨answer, by rw [hs.browses.id_of_get? hq]⟩)
    · exact .inl hlive
  | closed => exact .inr (.inr rfl)
  | _ => exact .inl hlive

theorem resolve_told {address : ReplyTo} {r : Reply} {i : Invocation}
    (he : Transition faults s rs (.reply address r) t) (hi : t.next.invocation? = some i)
    (hwhat : i.what.resolve? = some id) :
    ∃ q ∈ s.registry.resolves.values, q.client = i.client ∧ q.browseId = id ∧
      (∀ id r, i.what = .resolved id r → r = q.target) ∧
      t.session.registry.browses = s.registry.browses := by
  cases he with
  | idle | lostFaulty | answeredFaulty => cases hi
  | confirmed | browseFailed | appeared | vanished =>
    obtain rfl := Next.eq_of_invocation?_tell hi
    cases hwhat
  | @lost g =>
    by_cases hsettled : g.settled = true
    · simp only [hsettled, if_true] at hi
      cases hi
    · simp only [hsettled] at hi
      obtain rfl := Next.eq_of_invocation?_tell hi
      cases hwhat
  | @answered q _ _ _ code fullname hostTarget port txt _ hq =>
    obtain rfl := Next.eq_of_invocation?_tell hi
    obtain ⟨hid, htarget⟩ := Session.resolve?_settlement rs q code fullname hostTarget port txt
    exact ⟨q, RequestTable.mem_values_of_get? hq, rfl, Option.some.inj (hid.symm.trans hwhat),
      htarget, rfl⟩

end Transition

namespace Session
variable {s : Session} {rs : Records} {a : Advertisement} {c : Client} {answer : StartAnswer}
  {i : Invocation}

theorem resolve?_of_announce (hi : (s.announce rs a c answer).next.invocation? = some i) :
    i.what.resolve? = none := by
  unfold announce at hi
  split at hi
  · cases hi
  split at hi
  · rw [Next.eq_of_invocation?_tell hi]
    rfl
  cases answer with
  | raised f => cases hi
  | refused r =>
    rw [Next.eq_of_invocation?_tell hi]
    rfl
  | started h d =>
    unfold announceStarted at hi
    dsimp only at hi
    split at hi
    · cases hi
    · split at hi <;> cases hi

theorem resolve?_of_browse {constraints : Constraints}
    (hi : (s.browse rs constraints c answer).next.invocation? = some i) :
    i.what.resolve? = none := by
  unfold browse at hi
  split at hi
  · cases hi
  cases answer with
  | raised f => cases hi
  | refused r =>
    rw [Next.eq_of_invocation?_tell hi]
    rfl
  | started h d =>
    unfold browseStarted at hi
    dsimp only at hi
    split at hi
    · cases hi
    · split at hi <;> cases hi

theorem resolve?_of_resolve {target : RecordId} {id : Int}
    (hi : (s.resolve rs target c answer).next.invocation? = some i)
    (hwhat : i.what.resolve? = some id) (hid : id ≠ -1) :
    ∃ q, s.tracker? rs target = some q ∧ q.id = id := by
  unfold resolve at hi
  split at hi
  · cases hi
  split at hi
  · rw [Next.eq_of_invocation?_tell hi] at hwhat
    exact absurd (Option.some.inj hwhat).symm hid
  rename_i q hq
  cases answer with
  | raised f => cases hi
  | refused r =>
    rw [Next.eq_of_invocation?_tell hi] at hwhat
    exact ⟨q, hq, Option.some.inj hwhat⟩
  | started h d =>
    unfold resolveStarted at hi
    dsimp only at hi
    split at hi
    · cases hi
    · split at hi <;> cases hi

end Session

/-- Whom a call tells before it comes back is its own client, of a failure, and nothing has
changed. -/
theorem Transition.refused_of_told {faults : CloseFaults} {s : Session} {rs : Records} {r : Request}
    {answer : StartAnswer} {t : Turn} {i : Invocation}
    (he : Transition faults s rs (.request r answer) t) (hi : t.next.invocation? = some i) :
    t.session = s ∧ r.client? = some i.client ∧ ∀ id record, i.what ≠ .resolved id record := by
  cases he with
  | refused hc =>
    rw [Next.eq_of_invocation?_tell hi]
    exact ⟨rfl, hc, fun _ _ hwhat => nomatch hwhat⟩
  | _ => cases hi

namespace Loop
variable {l : Loop} {faults : CloseFaults} {r : Request} {answer : StartAnswer} {i : Invocation}
  {id : Int}

theorem resolve_told_of_request (hs : l.session.Sound)
    (hi : i ∈ invocations (l.request faults r answer).2) (hwhat : i.what.resolve? = some id)
    (hid : id ≠ -1) :
    ∃ target q, r = .resolve target i.client ∧ l.session.tracker? l.records target = some q ∧
      q.id = id ∧ (l.request faults r answer).1.session = l.session ∧
      ∀ id record, i.what ≠ .resolved id record := by
  have htold {t : Turn} (he : Transition faults l.session l.records (.request r answer) t)
      (ht : l.request faults r answer = l.settle t) : t.next.invocation? = some i := by
    rw [ht, (takes_settle l t).invocations_eq he, Option.mem_toList] at hi
    exact hi
  cases r with
  | announce a c =>
    rw [Session.resolve?_of_announce (htold (Session.transition_announce _ _ hs a c answer) rfl)]
      at hwhat
    cases hwhat
  | browse constraints c =>
    rw [Session.resolve?_of_browse (htold (Session.transition_browse _ _ hs constraints c answer)
      rfl)] at hwhat
    cases hwhat
  | resolve target c =>
    have he := Session.transition_resolve faults l.records hs target c answer
    have hi := htold he rfl
    obtain ⟨hsession, hclient, hfailed⟩ := he.refused_of_told hi
    obtain ⟨q, hq, hqid⟩ := Session.resolve?_of_resolve hi hwhat hid
    obtain rfl := Option.some.inj hclient
    exact ⟨target, q, rfl, hq, hqid, (takes_settle l _).session.trans hsession, hfailed⟩
  | cancel id =>
    obtain ⟨-, hclient, -⟩ := (Session.transition_cancel faults l.records id answer).refused_of_told
      (htold (Session.transition_cancel faults l.records id answer) rfl)
    cases hclient
  | close =>
    obtain ⟨-, hclient, -⟩ := (Session.transition_close faults l.records answer).refused_of_told
      (htold (Session.transition_close faults l.records answer) rfl)
    cases hclient
  | run timeoutMs =>
    have hnone : invocations (l.request faults (.run timeoutMs) answer).2 = [] :=
      (keeps_run l timeoutMs answer).invocations
    rw [hnone] at hi
    cases hi

end Loop

namespace History
variable {k : History}

/-- Every live resolve was called while a browse tracked its target, and names this browse. -/
theorem called (k : History) : ∀ q ∈ k.loop.session.registry.resolves.values, Called k.deeds q := by
  refine invariant (P := fun ds s _ => ∀ q ∈ s.registry.resolves.values, Called ds q) ?_ ?_ ?_ k
  · exact fun _ _ _ _ q hq => nomatch hq
  · exact fun k d _ _ _ hP _ q hq => (hP q hq).append _
  · intro k d t hbefore hd hP he _ q hq
    generalize hm : d.move = m at he
    cases he with
    | resolving _ htracker =>
      simp only [k.sound.resolves.values_insert] at hq
      obtain hq | hq := List.mem_append.mp hq
      · exact (hP q hq).append _
      · obtain rfl := List.mem_singleton.mp hq
        exact ⟨k.deeds, d, [], _, _, rfl, hd.event_of_request hm, hbefore ▸ htracker, rfl⟩
    | answered | answeredFaulty => exact (hP q (RequestTable.mem_values_of_mem_erase hq)).append _
    | closed => cases hq
    | _ => exact (hP q hq).append _

/-- What a live browse tracks it has discovered itself. -/
theorem discoverers (k : History) :
    ∀ q ∈ k.loop.session.registry.browses.values, ∀ p ∈ q.discovered,
    ∃ b ∈ k.deeds, b.Discovers q.id q.handle p.2 := by
  refine invariant (P := fun ds s _ => ∀ q ∈ s.registry.browses.values, ∀ p ∈ q.discovered,
    ∃ b ∈ ds, b.Discovers q.id q.handle p.2) ?_ ?_ ?_ k
  · exact fun _ _ _ _ q hq => nomatch hq
  · intro k d _ _ _ hP _ q hq p hp
    obtain ⟨b, hb, hdiscovers⟩ := hP q hq p hp
    exact ⟨b, List.mem_append_left _ hb, hdiscovers⟩
  · intro k d t hbefore _ hP he ht
    have hold {q : BrowseRequest} (hq : q ∈ k.loop.session.registry.browses.values)
        {p : String × RecordId}
        (hp : p ∈ q.discovered) : ∃ b ∈ k.deeds ++ [d], b.Discovers q.id q.handle p.2 := by
      obtain ⟨b, hb, hdiscovers⟩ := hP q hq p hp
      exact ⟨b, List.mem_append_left _ hb, hdiscovers⟩
    have hafter : t.session.Sound := he.sound k.sound
    have hsession : d.after.session = t.session := ht.session
    intro q' hq' p hp
    have hspotting := he.spotting k.sound
    generalize t.next.invocation? = told at hspotting
    cases hspotting with
    | still hs' => exact hold (hs' q' hq') hp
    | begun _ _ hnone hs' =>
      obtain rfl | hq' := hs' q' hq'
      · rw [hnone] at hp
        cases hp
      · exact hold hq' hp
    | @came q name record hq _ _ _ _ hs' =>
      obtain rfl | ⟨hq', -⟩ := hs' q' hq'
      · obtain hp | rfl := BrowseRequest.mem_putRecord hp
        · exact hold hq hp
        · refine ⟨d, by simp, by rw [hbefore], q, name, ?_, rfl, ?_⟩
          · rw [hbefore]
            exact k.sound.browses.mem_values_iff.mp hq
          · rw [hsession]
            exact hafter.browses.mem_values_iff.mp hq'
      · exact hold hq' hp
    | went hq _ hs' =>
      obtain rfl | ⟨hq', -⟩ := hs' q' hq'
      · exact hold hq (List.mem_of_mem_filter hp)
      · exact hold hq' hp

theorem browse_kept {d : Deed} {id : Int} {h : Handle} (hbefore : d.before = k.loop)
    (hd : d.Follows k.deeds) (hcancel : ∀ answer, d.event ≠ .request (.cancel id) answer)
    (hlive : k.loop.session.browseHandle? id = some h) :
    d.after.session.browseHandle? id = some h ∨ d.after.session.closed = true := by
  obtain hkeeps | ⟨t, he, ht⟩ := Loop.step_cases (hbefore ▸ k.sound) d.faults d.move
  · have hsession : d.after.session = d.before.session := hkeeps.session
    rw [hsession, hbefore]
    exact .inl hlive
  · have hsession : d.after.session = t.session := ht.session
    rw [hbefore] at he
    rw [hsession]
    obtain hkept | ⟨answer, hm⟩ | hclosed := he.browse_kept k.sound hlive
    · exact .inl hkept
    · exact absurd (hd.event_of_request hm) (hcancel answer)
    · exact .inr hclosed

theorem browse_goes_on {past rest : List Deed} {d : Deed} {id : Int} {h : Handle}
    (hk : k.deeds = past ++ d :: rest) (hlive : d.before.session.browseHandle? id = some h)
    (hcancel : ∀ x ∈ d :: rest, ∀ answer, x.event ≠ .request (.cancel id) answer) :
    k.loop.session.browseHandle? id = some h ∨ k.loop.session.closed = true := by
  refine induction (P := fun ds l => ∀ rest, ds = past ++ d :: rest →
    (∀ x ∈ d :: rest, ∀ answer, x.event ≠ .request (.cancel id) answer) →
    l.session.browseHandle? id = some h ∨ l.session.closed = true) ?_ ?_ k rest hk hcancel
  · exact fun _ _ _ _ _ hk => absurd hk (by simp)
  · intro k x hbefore hx ih rest hk hcancel
    obtain rfl | ⟨rest, last, rfl⟩ := List.eq_nil_or_concat rest
    · obtain ⟨-, hlast⟩ := List.append_inj' hk rfl
      obtain rfl := List.singleton_inj.mp hlast
      exact browse_kept hbefore hx (hcancel x List.mem_cons_self) (hbefore ▸ hlive)
    · rw [List.concat_eq_append] at hk hcancel
      rw [← List.cons_append, ← List.append_assoc] at hk
      obtain ⟨hpast, hlast⟩ := List.append_inj' hk rfl
      obtain rfl := List.singleton_inj.mp hlast
      obtain hlive | hclosed := ih rest hpast fun y hy => hcancel y (List.mem_append_left [x] hy)
      · exact browse_kept hbefore hx (hcancel x (by simp)) hlive
      · have hstill := Loop.still_step (k.over_of_closed hclosed) x.faults x.move
        rw [← hbefore] at hstill hclosed
        rw [Deed.after, hstill.session]
        exact .inr hclosed

theorem called_after_cancel {front later : List Deed} {x : Deed} {id : Int} {h : Handle}
    {answer : StartAnswer} (hk : k.deeds = front ++ x :: later)
    (hx : x.event = .request (.cancel id) answer)
    (hlive : k.loop.session.browseHandle? id = some h) :
    ∃ b ∈ later, .returned (.ok (some id)) ∈ b.outputs ∧ h ∈ returned [b] := by
  have hopen := notMem_releases_of_browseHandle? hlive
  obtain ⟨q, hq, rfl⟩ := Option.map_eq_some_iff.mp hlive
  obtain ⟨b, hb, o, ho, hevent, hhandle, haddress⟩ :=
    k.origins.browse q (RequestTable.mem_values_of_get? hq)
  rw [k.sound.browses.id_of_get? hq] at haddress
  have hreturned := returned_browse hb hevent ho haddress
  rw [hk] at hb
  obtain hfront | hb := List.mem_append.mp hb
  · -- Its handle would have been held when the id was cancelled, and closed then.
    obtain ⟨k', rfl, hloop, hfollows⟩ := exists_before hk
    have hnow : q.handle ∉ releases (outputsOf k'.deeds) ∧ q.handle ∉ releases x.outputs := by
      rw [hk, outputsOf_append, releases_append, List.mem_append, not_or] at hopen
      refine ⟨hopen.1, fun hreleased => hopen.2 ?_⟩
      simp [outputsOf, hreleased]
    obtain ⟨q', hq', hsame⟩ := browse_live (mem_openings hfront ho) (hhandle ▸ hnow.1) haddress
    have hbefore : x.before.session.browseHandle? id = some q.handle := by
      rw [← hloop, Session.browseHandle?, hq', Option.map_some, hsame, hhandle]
    exact absurd (mem_releases_of_cancel hfollows hx hbefore) hnow.2
  · obtain rfl | hb := List.mem_cons.mp hb
    · cases hx.symm.trans hevent
    · exact ⟨b, hb, hreturned, (mem_returned_singleton b).mpr ⟨o, ho, hhandle⟩⟩

/-- The browse that tracks a record is live and has discovered it, and if its id was cancelled
before, it was called after that. -/
theorem discovered_by_tracker {target : RecordId} {q : BrowseRequest}
    (hq : k.loop.session.tracker? k.loop.records target = some q) :
    k.loop.session.browseHandle? q.id = some q.handle ∧
    (∃ b ∈ k.deeds, b.Discovers q.id q.handle target) ∧
    ∀ front x later, k.deeds = front ++ x :: later →
    (∃ answer, x.event = .request (.cancel q.id) answer) →
      ∃ b ∈ later, .returned (.ok (some q.id)) ∈ b.outputs ∧ q.handle ∈ returned [b] := by
  obtain ⟨hlive, htracked⟩ := Session.mem_of_tracker? hq
  have hhandle := k.sound.browseHandle?_of_mem hlive
  refine ⟨hhandle, k.discoverers q hlive _ htracked, ?_⟩
  rintro front x later hk ⟨answer, hx⟩
  exact called_after_cancel hk hx hhandle

/-- Every callback of a resolve that names a browse belongs to a call that was made while this
browse was live; the browse is the very one that discovered the record. It is live in the callback
too, unless it was cancelled after the call. If its id was cancelled before the call, browsing had
returned the id again. -/
theorem resolves_name_browse (k : History) : ∀ past rest e i id, k.deeds = past ++ e :: rest →
    i ∈ invocations e.outputs → i.what.resolve? = some id → id ≠ -1 →
    ∃ before d mid target answer h, past ++ [e] = before ++ d :: mid ∧
      d.event = .request (.resolve target i.client) answer ∧
      (∀ id record, i.what = .resolved id record → record = target) ∧
      d.before.session.browseHandle? id = some h ∧ (∃ b ∈ before, b.Discovers id h target) ∧
      ((∀ x ∈ mid, ∀ answer, x.event ≠ .request (.cancel id) answer) →
        e.after.session.browseHandle? id = some h) ∧
      ∀ front x later, before = front ++ x :: later →
        (∃ answer, x.event = .request (.cancel id) answer) →
        ∃ b ∈ later, .returned (.ok (some id)) ∈ b.outputs ∧ h ∈ returned [b] := by
  intro past rest e i id hk hi hwhat hid
  obtain ⟨k', rfl, hloop, hfollows⟩ := exists_before hk
  obtain hkeeps | ⟨t, he, ht⟩ := Loop.step_cases (hloop ▸ k'.sound) e.faults e.move
  · have hnone : invocations e.outputs = [] := hkeeps.invocations
    rw [hnone] at hi
    cases hi
  have htold : t.next.invocation? = some i := by
    have hinv : invocations e.outputs = _ := ht.invocations_eq he
    rwa [hinv, Option.mem_toList] at hi
  generalize hm : e.move = m at he
  cases m with
  | request r answer =>
    have hevent := hfollows.event_of_request hm
    have hstep := hfollows.eq_request hevent
    obtain ⟨target, q, rfl, htracker, rfl, hsession, hfailed⟩ := Loop.resolve_told_of_request
      (hloop ▸ k'.sound) (by rw [← hstep]; exact hi) hwhat hid
    rw [← hstep] at hsession
    rw [← hloop] at htracker
    obtain ⟨hlive, hdiscovered, hreissued⟩ := discovered_by_tracker htracker
    refine ⟨k'.deeds, e, [], target, answer, q.handle, rfl, hevent,
      fun id record hresolved => absurd hresolved (hfailed id record), hloop ▸ hlive, hdiscovered,
      fun _ => ?_, hreissued⟩
    rw [hsession, ← hloop]
    exact hlive
  | reply address r =>
    obtain ⟨q, hq, hclient, rfl, htarget, hbrowses⟩ := he.resolve_told htold hwhat
    rw [← hloop] at hq
    obtain ⟨before, d, mid, answer, b, hsplit, hcall, htracker, hb⟩ := k'.called q hq
    obtain ⟨k'', rfl, hloop'', -⟩ := exists_before hsplit
    rw [← hloop''] at htracker
    obtain ⟨hlive, hdiscovered, hreissued⟩ := discovered_by_tracker htracker
    rw [hb] at hlive hdiscovered hreissued
    refine ⟨k''.deeds, d, mid ++ [e], q.target, answer, b.handle,
      by simp [hsplit], hclient ▸ hcall, htarget,
      hloop'' ▸ hlive, hdiscovered, fun hcancel => ?_, hreissued⟩
    have hgoes := browse_goes_on hsplit (hloop'' ▸ hlive) fun x hx answer => by
      obtain rfl | hx := List.mem_cons.mp hx
      · rw [hcall]
        exact fun hcancelled => nomatch hcancelled
      · exact hcancel x (List.mem_append_left _ hx) answer
    have hopen : k'.loop.session.closed ≠ true := by
      intro hclosed
      rw [(k'.over_of_closed hclosed).resolves] at hq
      cases hq
    have hsession : e.after.session = t.session := ht.session
    rw [Session.browseHandle?, hsession, hbrowses, ← hloop]
    exact hgoes.resolve_right hopen
  | _ =>
    cases he with
    | idle => cases htold

def cancelledMeanwhile : History :=
  browsed.adds [.report 1 (.browse 2 0 0 "B" (some "_ndn._udp.") (some "local.")), .finish false,
    .request (.resolve 1 { ticket := 2 }) (.started 2 11),
    .request (.cancel 1) (.raised (.closed ""))]

def resolvingAnew : History :=
  cancelledMeanwhile.adds [.request (.browse {} { ticket := 3 }) (.started 3 12),
    .report 3 (.browse 2 0 0 "C" (some "_ndn._udp.") (some "local.")), .finish false,
    .request (.resolve 2 { ticket := 4 }) (.started 4 13)]

def located : Reply := .resolve 0 0 0 (some "f") (some "h") 1 [4, 0x70, 0x3d, 0x2f, 0x31]

theorem exists_telling (k : History) (h : Handle) (r : Reply) (what : Notification)
    (hcan : ((Occurrence.report h r).move? k.loop k.deeds).isSome)
    (htold : (invocations (outputsOf (k.add {} (.report h r)).deeds)).map (·.what) =
      (invocations (outputsOf k.deeds)).map (·.what) ++ [what]) :
    ∃ e i, (k.add {} (.report h r)).deeds = k.deeds ++ e :: [] ∧
    e.after = (k.add {} (.report h r)).loop ∧
      invocations e.outputs = [i] ∧ i.what = what := by
  obtain ⟨e, he, -, -⟩ := exists_deed k {} (.report h r) hcan
  rw [he, outputsOf_append, invocations_append, List.map_append, outputsOf_singleton] at htold
  obtain ⟨i, hi, hwhat⟩ := List.map_eq_singleton_iff.mp (List.append_cancel_left htold)
  exact ⟨e, i, he, (loop_eq_after he).symm, hi, hwhat⟩

theorem resolves_name_browse_reissued :
    ∃ past e i, (resolvingAnew.add {} (.report 4 located)).deeds = past ++ e :: [] ∧
      invocations e.outputs = [i] ∧ i.what = .resolved 1 2 ∧
      e.after.session.browseHandle? 1 = some 3 ∧
      ∃ d ∈ past ++ [e], ∃ answer h, d.event = .request (.resolve 2 i.client) answer ∧
        d.before.session.browseHandle? 1 = some h ∧ ∃ b ∈ past ++ [e], b.Discovers 1 h 2 := by
  obtain ⟨e, i, hk, hafter, hinv, hwhat⟩ := resolvingAnew.exists_telling 4 located (.resolved 1 2)
    (by decide +kernel) (by decide +kernel)
  obtain ⟨before, d, mid, target, answer, h, hsplit, hcall, htarget, hlive,
      ⟨b, hb, hdiscovers⟩, -, -⟩ :=
    resolves_name_browse _ _ _ _ i 1 hk (by simp [hinv]) (by rw [hwhat]; rfl) (by decide)
  obtain rfl := htarget 1 2 hwhat
  refine ⟨resolvingAnew.deeds, e, i, hk, hinv, hwhat, ?_, d, ?_, answer, h, hcall, hlive, b,
    ?_, hdiscovers⟩
  · rw [hafter]
    decide +kernel
  · simp [hsplit]
  · rw [hsplit]
    exact List.mem_append_left _ hb

/-- A resolve is answered after its browse was cancelled. -/
theorem not_resolves_name_browse_cancelled :
    ¬∀ (k : History) past rest e i id, k.deeds = past ++ e :: rest → i ∈ invocations e.outputs →
      i.what.resolve? = some id → id ≠ -1 → ∃ h, e.after.session.browseHandle? id = some h ∧
        ∀ record, i.what = .resolved id record → ∃ b ∈ past, b.Discovers id h record := by
  intro hall
  obtain ⟨e, i, hk, hafter, hinv, hwhat⟩ :=
    cancelledMeanwhile.exists_telling 2 located (.resolved 1 1)
    (by decide +kernel) (by decide +kernel)
  obtain ⟨h, hlive, -⟩ := hall _ _ _ e i 1 hk (by simp [hinv]) (by rw [hwhat]; rfl) (by decide)
  have hnone : (cancelledMeanwhile.add {} (.report 2 located)).loop.session.browseHandle? 1 =
      none := by
    decide +kernel
  rw [hafter, hnone] at hlive
  cases hlive

end History
end ServiceDiscovery
