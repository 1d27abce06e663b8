import ServiceDiscovery.Proofs.Sightings
import ServiceDiscovery.Proofs.Telling

/-!
What a browse announces and what it tracks. For each name the announcements alternate, and the
tracked names are those whose last announcement said that they came, under the records that were
announced.
-/
namespace ServiceDiscovery
open Sighting

namespace Records
variable {rs : Records} {i j : RecordId}

def name (rs : Records) (i : RecordId) : String := (rs.get i).uuid

theorem name_modify {f : Record → Record} (hf : ∀ r, (f r).uuid = r.uuid) :
    (rs.modify i f).name j = rs.name j := by
  by_cases hij : i = j
  · subst hij
    rw [name, name, get, get, get?_modify_self]
    cases rs.get? i with
    | none => rfl
    | some r => exact hf r
  · rw [name, name, get_modify_of_ne hij]

theorem name_add (h : (rs.get? i).isSome) (r : Record) : (rs.add r).name i = rs.name i := by
  rw [name, name, get, get, get?_add_of_isSome h]

end Records

structure Records.Named (rs rs' : Records) : Prop where
  stored : ∀ i, (rs.get? i).isSome → (rs'.get? i).isSome
  name : ∀ i, (rs.get? i).isSome → rs'.name i = rs.name i

theorem Records.Named.refl (rs : Records) : rs.Named rs := ⟨fun _ h => h, fun _ _ => rfl⟩

theorem Records.Named.modify (rs : Records) (i : RecordId) {f : Record → Record}
    (hf : ∀ r, (f r).uuid = r.uuid) : rs.Named (rs.modify i f) :=
  ⟨fun _ h => (isSome_get?_modify f).trans h, fun _ _ => name_modify hf⟩

theorem Records.Named.add (rs : Records) (r : Record) : rs.Named (rs.add r) :=
  ⟨fun _ h => by rwa [get?_add_of_isSome h], fun _ h => name_add h r⟩

theorem Records.Named.trans {rs rs' rs'' : Records} (h : rs.Named rs') (h' : rs'.Named rs'') :
    rs.Named rs'' :=
  ⟨fun i hi => h'.stored i (h.stored i hi),
    fun i hi => (h'.name i (h.stored i hi)).trans (h.name i hi)⟩

theorem Session.named_settlement (rs : Records) (q : ResolveRequest) (code : Int)
    (fullname hostTarget : Option String) (port : Int) (txt : Text.Octets) :
    rs.Named (settlement rs q code fullname hostTarget port txt).1 := by
  obtain ⟨_, _, _, h⟩ | h := settlement_cases rs q code fullname hostTarget port txt
  · rw [h]
    exact .refl rs
  · rw [h]
    exact .modify rs q.target fun _ => rfl

theorem Session.sighting?_settlement (rs : Records) (q : ResolveRequest) (code : Int)
    (fullname hostTarget : Option String) (port : Int) (txt : Text.Octets) :
    (settlement rs q code fullname hostTarget port txt).2.sighting? = none := by
  obtain ⟨_, _, _, h⟩ | h :=
    settlement_cases rs q code fullname hostTarget port txt <;> rw [h] <;> rfl

theorem Transition.named {faults : CloseFaults} {s : Session} {rs : Records} {m : Move} {t : Turn}
    (he : Transition faults s rs m t) : rs.Named t.records := by
  cases he with
  | announced => exact .modify rs s.own fun _ => rfl
  | confirmed => exact .modify rs s.own fun _ => rfl
  | lost => exact .modify rs s.own fun _ => rfl
  | appeared => exact .add rs _
  | answered => exact Session.named_settlement ..
  | closed =>
    split
    · exact .modify rs s.own fun _ => rfl
    · exact .refl rs
  | _ => exact .refl rs

theorem Transition.uuid {faults : CloseFaults} {s : Session} {rs : Records} {m : Move} {t : Turn}
    (he : Transition faults s rs m t) : t.session.uuid = s.uuid := by
  cases he <;> rfl

/-- What a turn does about the browses and what they track: they go on or end and nobody hears of an
instance, one more begins, or one that goes on takes up an instance or lets it go. -/
inductive Spotting (m : Move) (s : Session) (rs : Records) (s' : Session) (rs' : Records) :
    Option Invocation → Prop
  | still {o : Option Invocation}
      (hs' : ∀ q ∈ s'.registry.browses.values, q ∈ s.registry.browses.values)
      (ho : ∀ i ∈ o, i.what.sighting? = none) : Spotting m s rs s' rs' o
  | begun {q : BrowseRequest} {r answer} (hm : m = .request r answer)
      (hc : r.client? = some q.client)
      (hnone : q.discovered = [])
      (hs' : ∀ q' ∈ s'.registry.browses.values, q' = q ∨ q' ∈ s.registry.browses.values) :
      Spotting m s rs s' rs' none
  | came {q : BrowseRequest} {name : String} {record : Record} (hq : q ∈ s.registry.browses.values)
      (hname : name ≠ s.uuid) (hnew : q.discovered.lookup name = none)
      (hrecord : record.uuid = name)
      (hrs' : rs' = rs.add record)
      (hs' : ∀ q' ∈ s'.registry.browses.values,
        q' = q.track name rs.nextId ∨ q' ∈ s.registry.browses.values ∧ q'.id ≠ q.id) :
      Spotting m s rs s' rs' (if q.client.onResult then
        some ⟨q.client, .added q.id rs.nextId⟩ else none)
  | went {q : BrowseRequest} {name : String} {r : RecordId} (hq : q ∈ s.registry.browses.values)
      (hr : q.discovered.lookup name = some r)
      (hs' : ∀ q' ∈ s'.registry.browses.values,
        q' = q.drop name ∨ q' ∈ s.registry.browses.values ∧ q'.id ≠ q.id) :
      Spotting m s rs s' rs' (if q.client.onResult then some ⟨q.client, .removed q.id r⟩ else none)

open Session in
theorem Transition.spotting {faults : CloseFaults} {s : Session} {rs : Records} {m : Move}
    {t : Turn} (he : Transition faults s rs m t) (hs : s.Sound) :
    Spotting m s rs t.session t.records t.next.invocation? := by
  have silent (c : Client) (what : Notification) (o : Outcome) (hwhat : what.sighting? = none) :
      ∀ i ∈ (Next.tell c what o).invocation?, i.what.sighting? = none := by
    intro i hi
    rw [Next.eq_of_invocation?_tell hi]
    exact hwhat
  cases he with
  | idle | announced | orphaned | resolving | lostFaulty | answeredFaulty =>
    exact .still (fun q hq => hq) (fun i hi => nomatch hi)
  | refused | confirmed | browseFailed => exact .still (fun q hq => hq) (silent _ _ _ rfl)
  | @lost g =>
    refine .still (fun q hq => hq) ?_
    split
    · exact fun i hi => nomatch hi
    · exact silent _ _ _ rfl
  | answered => exact .still (fun q hq => hq) (silent _ _ _ (sighting?_settlement ..))
  | cancelled =>
    exact .still (fun q hq => RequestTable.mem_values_of_mem_erase hq) (fun i hi => nomatch hi)
  | closed => exact .still (fun q hq => nomatch hq) (fun i hi => nomatch hi)
  | @browsing k c h =>
    refine .begun (q := { id := s.registry.browses.nextId, handle := h, constraints := k,
                          client := c })
      rfl rfl rfl fun q' hq' => ?_
    rw [hs.browses.values_insert] at hq'
    exact (List.mem_append.mp hq').symm.imp_left List.mem_singleton.mp
  | appeared hq _ hname hnew =>
    have hid := hs.browses.id_of_get? hq
    rw [Next.invocation?_tell]
    exact .came (RequestTable.mem_values_of_get? hq) hname hnew rfl rfl
      fun q' hq' => hs.browses.mem_values_modify (hid ▸ hq) hq'
  | vanished hq _ hrecord =>
    have hid := hs.browses.id_of_get? hq
    rw [Next.invocation?_tell]
    exact .went (RequestTable.mem_values_of_get? hq) hrecord
      fun q' hq' => hs.browses.mem_values_modify (hid ▸ hq) hq'

/-- An event of a browse changes nothing and announces nothing, or it is no error and announces, if
anything, an instance of its name: a new record, or the one that the browse tracks under this
name. -/
theorem Transition.named_of_browse {faults : CloseFaults} {s : Session} {rs : Records} {t : Turn}
    {id flags interfaceIndex code : Int} {name : String} {regtype domain : Option String}
    (he : Transition faults s rs
      (.reply (.browse id) (.browse flags interfaceIndex code name regtype domain)) t) :
    (t.session = s ∧ t.records = rs ∧ ∀ i ∈ t.next.invocation?, i.what.sighting? = none) ∨
      code = ErrorCode.noError ∧ ∃ q ∈ s.registry.browses.values, ∀ i ∈ t.next.invocation?,
        q.client.onResult = true ∧ i.client = q.client ∧ ∃ x, i.what.sighting? = some x ∧
          (t.records.name x.record = name ∨ q.discovered.lookup name = some x.record) := by
  have told {c : Client} {what : Notification} {o : Outcome} {i : Invocation}
      (hi : i ∈ (Next.tell c what o).invocation?) : i = ⟨c, what⟩ ∧ c.wants what = true := by
    rw [Next.invocation?_tell] at hi
    split at hi
    · exact ⟨(Option.some.inj hi).symm, ‹_›⟩
    · cases hi
  cases he with
  | idle => exact .inl ⟨rfl, rfl, fun i hi => nomatch hi⟩
  | browseFailed =>
    refine .inl ⟨rfl, rfl, fun i hi => ?_⟩
    rw [(told hi).1]
    rfl
  | appeared hq =>
    refine .inr ⟨rfl, _, RequestTable.mem_values_of_get? hq, fun i hi => ?_⟩
    obtain ⟨rfl, hwants⟩ := told hi
    refine ⟨hwants, rfl, _, rfl, .inl ?_⟩
    rw [Records.name, Records.get, Sighting.record, Records.get?_add_self]
    rfl
  | vanished hq _ hrecord =>
    refine .inr ⟨rfl, _, RequestTable.mem_values_of_get? hq, fun i hi => ?_⟩
    obtain ⟨rfl, hwants⟩ := told hi
    exact ⟨hwants, rfl, _, rfl, .inr hrecord⟩

def announcements (ticket : Nat) (ds : List Deed) : List Sighting :=
  (told ticket ds).filterMap (·.what.sighting?)

theorem announcements_append (ticket : Nat) (a b : List Deed) :
    announcements ticket (a ++ b) = announcements ticket a ++ announcements ticket b := by
  simp [announcements, told_append]

theorem announcements_of_still {ticket : Nat} {d : Deed}
    (h : ∀ i ∈ invocations d.outputs, i.what.sighting? = none) : announcements ticket [d] = [] := by
  refine List.filterMap_eq_nil_iff.mpr fun i hi => h i ?_
  simpa using List.mem_of_mem_filter hi

theorem announcements_of_sighting {ticket : Nat} {d : Deed} {i : Invocation} {x : Sighting}
    (h : invocations d.outputs = [i]) (hx : i.what.sighting? = some x) :
    announcements ticket [d] = if i.client.ticket = ticket then [x] else [] := by
  rw [announcements, told_of_told h]
  split
  · simp [hx]
  · rfl

theorem BrowseRequest.putRecord_of_lookup_eq_none {name : String} {r : RecordId}
    {ds : List (String × RecordId)} (h : ds.lookup name = none) :
    putRecord name r ds = ds ++ [(name, r)] := by
  induction ds with
  | nil => rfl
  | cons e es ih =>
    rw [List.lookup_eq_none_iff] at h
    obtain ⟨he, hes⟩ := List.forall_mem_cons.mp h
    have hne : e.1 ≠ name := by simpa using Ne.symm (by simpa using he)
    rw [putRecord, if_neg hne, ih (List.lookup_eq_none_iff.mpr hes)]
    rfl

/-- Under each ticket names come and go in turn, never our own, and a live browse tracks just those
that are there by its announcements. -/
structure Present (ds : List Deed) (s : Session) (rs : Records) : Prop where
  stored : ∀ ticket, ∀ x ∈ announcements ticket ds, (rs.get? x.record).isSome
  foreign : ∀ ticket, ∀ x ∈ announcements ticket ds, rs.name x.record ≠ s.uuid
  alternate : ∀ ticket n, Alternate (named rs.name n (announcements ticket ds))
  tracked : ∀ q ∈ s.registry.browses.values, q.client.onResult = true →
    q.discovered = present rs.name (announcements q.client.ticket ds)

namespace Present
variable {ds : List Deed} {d : Deed} {s s' : Session} {rs rs' : Records} {q : BrowseRequest}

theorem name_eq (hp : Present ds s rs) (hnamed : rs.Named rs') (ticket : Nat) :
    ∀ x ∈ announcements ticket ds, rs'.name x.record = rs.name x.record :=
  fun x hx => hnamed.name _ (hp.stored ticket x hx)

theorem still (hp : Present ds s rs) (hnamed : rs.Named rs') (huuid : s'.uuid = s.uuid)
    (hnone : ∀ ticket, announcements ticket [d] = [])
    (htracked : ∀ q ∈ s'.registry.browses.values, q.client.onResult = true →
      q.discovered = present rs.name (announcements q.client.ticket ds)) :
    Present (ds ++ [d]) s' rs' := by
  have hsame (ticket : Nat) : announcements ticket (ds ++ [d]) = announcements ticket ds := by
    rw [announcements_append, hnone, List.append_nil]
  constructor
  · intro ticket x hx
    rw [hsame] at hx
    exact hnamed.stored _ (hp.stored ticket x hx)
  · intro ticket x hx
    rw [hsame] at hx
    rw [hp.name_eq hnamed ticket x hx, huuid]
    exact hp.foreign ticket x hx
  · intro ticket n
    rw [hsame, named_congr (hp.name_eq hnamed ticket)]
    exact hp.alternate ticket n
  · intro q hq hon
    rw [hsame, present_congr (hp.name_eq hnamed q.client.ticket)]
    exact htracked q hq hon

theorem unheard (hp : Present ds s rs) (hnamed : rs.Named rs') (huuid : s'.uuid = s.uuid)
    (hoff : ¬q.client.onResult = true) (hnone : invocations d.outputs = [])
    (hs' : ∀ q' ∈ s'.registry.browses.values,
      q'.client = q.client ∨ q' ∈ s.registry.browses.values) : Present (ds ++ [d]) s' rs' := by
  refine hp.still hnamed huuid (fun ticket => announcements_of_still (by simp [hnone])) ?_
  intro q' hq' hon
  obtain hclient | hq' := hs' q' hq'
  · exact absurd (hclient ▸ hon) hoff
  · exact hp.tracked q' hq' hon

theorem sighted (hp : Present ds s rs) (hnamed : rs.Named rs') (huuid : s'.uuid = s.uuid)
    {x : Sighting}
    (hnow : ∀ ticket, announcements ticket [d] = if q.client.ticket = ticket then [x] else [])
    (hstored : (rs'.get? x.record).isSome) (hforeign : rs'.name x.record ≠ s.uuid)
    (halternate : Alternate
      (named rs.name (rs'.name x.record) (announcements q.client.ticket ds) ++ [x]))
    (htracked : ∀ q' ∈ s'.registry.browses.values, q'.client = q.client ∧
      q'.discovered = present rs'.name (announcements q.client.ticket ds ++ [x]) ∨
      q' ∈ s.registry.browses.values ∧ q'.client.ticket ≠ q.client.ticket) :
    Present (ds ++ [d]) s' rs' := by
  have hother {ticket : Nat} (hne : q.client.ticket ≠ ticket) :
      announcements ticket (ds ++ [d]) = announcements ticket ds := by
    rw [announcements_append, hnow, if_neg hne, List.append_nil]
  have hown : announcements q.client.ticket (ds ++ [d]) =
      announcements q.client.ticket ds ++ [x] := by
    rw [announcements_append, hnow, if_pos rfl]
  have hmem {ticket : Nat} {y : Sighting} (hy : y ∈ announcements ticket (ds ++ [d])) :
      y ∈ announcements ticket ds ∨ y = x := by
    rw [announcements_append, hnow] at hy
    refine (List.mem_append.mp hy).imp_right fun hy => ?_
    split at hy
    · exact List.mem_singleton.mp hy
    · cases hy
  constructor
  · intro ticket y hy
    obtain hy | rfl := hmem hy
    · exact hnamed.stored _ (hp.stored ticket y hy)
    · exact hstored
  · intro ticket y hy
    rw [huuid]
    obtain hy | rfl := hmem hy
    · rw [hp.name_eq hnamed ticket y hy]
      exact hp.foreign ticket y hy
    · exact hforeign
  · intro ticket n
    by_cases hticket : q.client.ticket = ticket
    · subst hticket
      rw [hown, named_append, named_congr (hp.name_eq hnamed _), named_cons]
      by_cases hn : rs'.name x.record = n
      · subst hn
        simpa [named] using halternate
      · simpa [hn, named] using hp.alternate _ n
    · rw [hother hticket, named_congr (hp.name_eq hnamed ticket)]
      exact hp.alternate ticket n
  · intro q' hq' hon
    obtain ⟨hclient, hdiscovered⟩ | ⟨hq', hne⟩ := htracked q' hq'
    · rw [hclient, hown, hdiscovered]
    · rw [hother (Ne.symm hne), present_congr (hp.name_eq hnamed _)]
      exact hp.tracked q' hq' hon

theorem came (hp : Present ds s rs) (hnamed : rs.Named rs') (huuid : s'.uuid = s.uuid)
    (hq : q ∈ s.registry.browses.values) (hon : q.client.onResult = true) {name : String}
    {r : RecordId} (hname : name ≠ s.uuid) (hnew : q.discovered.lookup name = none)
    {record : Record} (hget : rs'.get? r = some record) (hrecord : record.uuid = name)
    (hinv : invocations d.outputs = [⟨q.client, .added q.id r⟩])
    (hs' : ∀ q' ∈ s'.registry.browses.values, q' = q.track name r ∨ q' ∈ s.registry.browses.values ∧
      q'.client.ticket ≠ q.client.ticket) :
    Present (ds ++ [d]) s' rs' := by
  have hthis : rs'.name r = name := by
    rw [Records.name, Records.get, hget, ← hrecord, Option.getD_some]
  have hdiscovered := hp.tracked q hq hon
  refine hp.sighted (x := .added r) hnamed huuid (fun ticket => announcements_of_sighting hinv rfl)
    (by simp [Sighting.record, hget]) (hthis ▸ hname) ?_ ?_
  · refine (hp.alternate _ _).append_added ?_ _
    rw [← lookup_present, ← hdiscovered, Sighting.record, hthis, hnew]
  · intro q' hq'
    refine (hs' q' hq').imp_left ?_
    rintro rfl
    refine ⟨rfl, ?_⟩
    have hnone : q.discovered.filter (·.1 != name) = q.discovered := by
      refine List.filter_eq_self.mpr fun e he => ?_
      simpa [bne_comm] using List.lookup_eq_none_iff.mp hnew e he
    rw [present_append, present_congr (hp.name_eq hnamed _), ← hdiscovered, Sighting.record,
      hthis, hnone, BrowseRequest.track, BrowseRequest.putRecord_of_lookup_eq_none hnew]
    simp [added?, hthis]

theorem went (hp : Present ds s rs) (hnamed : rs.Named rs') (huuid : s'.uuid = s.uuid)
    (hq : q ∈ s.registry.browses.values) (hon : q.client.onResult = true) {name : String}
    {r : RecordId} (hr : q.discovered.lookup name = some r)
    (hinv : invocations d.outputs = [⟨q.client, .removed q.id r⟩])
    (hs' : ∀ q' ∈ s'.registry.browses.values, q' = q.drop name ∨ q' ∈ s.registry.browses.values ∧
      q'.client.ticket ≠ q.client.ticket) :
    Present (ds ++ [d]) s' rs' := by
  have hdiscovered := hp.tracked q hq hon
  have hmem : (name, r) ∈ present rs.name (announcements q.client.ticket ds) := by
    rw [← hdiscovered]
    exact BrowseRequest.mem_of_lookup hr
  obtain ⟨hname, hadded⟩ := mem_present hmem
  have hthis : rs'.name r = name := (hp.name_eq hnamed _ _ hadded).trans hname
  have hstored : (rs'.get? r).isSome := hnamed.stored _ (hp.stored _ _ hadded)
  refine hp.sighted (x := .removed r) hnamed huuid
    (fun ticket => announcements_of_sighting hinv rfl)
    hstored ?_ ?_ ?_
  · rw [Sighting.record, hthis, ← hname]
    exact hp.foreign _ _ hadded
  · refine (hp.alternate _ _).append_removed ?_
    rw [← lookup_present, ← hdiscovered, Sighting.record, hthis, hr]
  · intro q' hq'
    refine (hs' q' hq').imp_left ?_
    rintro rfl
    refine ⟨rfl, ?_⟩
    rw [present_append, present_congr (hp.name_eq hnamed _), ← hdiscovered, Sighting.record, hthis]
    simp [BrowseRequest.drop, added?]

end Present

namespace History
variable {k : History}

theorem browse_of_ticket {q q' : BrowseRequest} (hq : q ∈ k.loop.session.registry.browses.values)
    (hq' : q' ∈ k.loop.session.registry.browses.values)
    (hticket : q'.client.ticket = q.client.ticket) : q'.id = q.id := by
  obtain ⟨d, hd, o, ho, he, hhandle, haddress⟩ := k.origins.browse q hq
  obtain ⟨d', hd', o', ho', he', hhandle', haddress'⟩ := k.origins.browse q' hq'
  have hclient : d.client? = some q.client := by rw [Deed.client?, he]; rfl
  have hclient' : d'.client? = some q'.client := by rw [Deed.client?, he']; rfl
  obtain rfl := caller_unique hd' hd hclient' hclient hticket
  have hsame : o' = o := by
    refine opening_unique (mem_openings hd ho') (mem_openings hd ho) ?_
    rw [he] at he'
    simp only [Occurrence.request.injEq, StartAnswer.started.injEq] at he'
    rw [hhandle, hhandle', he'.2.1]
  subst hsame
  exact ReplyTo.browse.inj (haddress'.symm.trans haddress)

theorem presence (k : History) : Present k.deeds k.loop.session k.loop.records := by
  refine invariant (P := Present) ?_ ?_ ?_ k
  · intro uuid codec ownsProvider records
    exact ⟨fun _ x hx => (nomatch hx), fun _ x hx => (nomatch hx), fun _ _ => .nil,
      fun q hq => nomatch hq⟩
  · intro k d _ _ _ hp hkeeps
    refine hp.still (.refl _) rfl (fun ticket => announcements_of_still ?_) hp.tracked
    have hnone : invocations d.outputs = [] := hkeeps.invocations
    simp [hnone]
  · intro k d t hbefore hd hp he ht
    have hnamed := he.named
    have hspotting := he.spotting k.sound
    have hinv : invocations d.outputs = t.next.invocation?.toList := ht.invocations_eq he
    generalize t.next.invocation? = told at hspotting hinv
    cases hspotting with
    | still hs' ho =>
      refine hp.still hnamed he.uuid (fun ticket => announcements_of_still ?_)
        (fun q hq => hp.tracked q (hs' q hq))
      rw [hinv]
      exact fun i hi => ho i (Option.mem_toList.mp hi)
    | @begun q r answer hm hc hnone hs' =>
      refine hp.still hnamed he.uuid (fun ticket => announcements_of_still ?_) ?_
      · rw [hinv]
        exact fun i hi => nomatch hi
      · intro q' hq' hon
        obtain rfl | hq' := hs' q' hq'
        · have hfresh := hd.fresh_ticket (hd.client?_of_request hm hc)
          rw [announcements, k.once.told_of_fresh hfresh, hnone]
          rfl
        · exact hp.tracked q' hq' hon
    | @came q name record hq hname hnew hrecord hrs' hs' =>
      have hget : t.records.get? k.loop.records.nextId = some record := by
        rw [hrs', Records.get?_add_self]
      by_cases hon : q.client.onResult = true
      · rw [if_pos hon, Option.toList_some] at hinv
        exact hp.came hnamed he.uuid hq hon hname hnew hget hrecord hinv fun q' hq' =>
          (hs' q' hq').imp_right fun h =>
            ⟨h.1, fun hticket => h.2 (browse_of_ticket hq h.1 hticket)⟩
      · rw [if_neg hon] at hinv
        exact hp.unheard hnamed he.uuid hon hinv fun q' hq' =>
          (hs' q' hq').imp (fun h => by rw [h]; rfl) And.left
    | @went q name r hq hr hs' =>
      by_cases hon : q.client.onResult = true
      · rw [if_pos hon, Option.toList_some] at hinv
        exact hp.went hnamed he.uuid hq hon hr hinv fun q' hq' =>
          (hs' q' hq').imp_right fun h =>
            ⟨h.1, fun hticket => h.2 (browse_of_ticket hq h.1 hticket)⟩
      · rw [if_neg hon] at hinv
        exact hp.unheard hnamed he.uuid hon hinv fun q' hq' =>
          (hs' q' hq').imp (fun h => by rw [h]; rfl) And.left

theorem uuid_step (k : History) (d : Deed) (hbefore : d.before = k.loop) :
    d.after.session.uuid = k.loop.session.uuid := by
  rw [← hbefore]
  obtain hkeeps | ⟨t, he, ht⟩ := Loop.step_cases (hbefore ▸ k.sound) d.faults d.move
  · have hsession : d.after.session = d.before.session := hkeeps.session
    rw [hsession]
  · have hsession : d.after.session = t.session := ht.session
    rw [hsession, he.uuid]

theorem uuid_eq {k : History} {past rest : List Deed} {d : Deed}
    (hk : k.deeds = past ++ d :: rest) :
    d.before.session.uuid = k.loop.session.uuid ∧ d.after.session.uuid = k.loop.session.uuid := by
  refine induction (P := fun ds l => AtEach (fun _ d => d.before.session.uuid = l.session.uuid ∧
    d.after.session.uuid = l.session.uuid) ds) ?_ ?_ k past d rest hk
  · exact fun _ _ _ _ => atEach_nil
  · intro k d hbefore hd hold
    have hnow := k.uuid_step d hbefore
    refine atEach_concat.mpr ⟨fun past e rest hds => ?_, by rw [hnow, hbefore], rfl⟩
    rw [hnow]
    exact hold past e rest hds

theorem named_step (k : History) (d : Deed) (hbefore : d.before = k.loop) :
    k.loop.records.Named d.after.records := by
  rw [← hbefore]
  obtain hkeeps | ⟨t, he, ht⟩ := Loop.step_cases (hbefore ▸ k.sound) d.faults d.move
  · have hrecords : d.after.records = d.before.records := hkeeps.records
    exact hrecords ▸ .refl _
  · have hrecords : d.after.records = t.records := ht.records
    exact hrecords ▸ he.named

/-- Whatever happens later, the records of a history keep their names. -/
theorem named_run {past rest : List Deed} {e : Deed} (hk : k.deeds = past ++ e :: rest) :
    e.after.records.Named k.loop.records := by
  refine induction (P := fun ds l => AtEach (fun _ e => e.after.records.Named l.records) ds) ?_ ?_ k
    past e rest hk
  · exact fun _ _ _ _ => atEach_nil
  · intro k d hbefore hd hold
    have hnow := named_step k d hbefore
    exact atEach_concat.mpr ⟨fun past e rest hds => (hold past e rest hds).trans hnow, .refl _⟩

/-- An event of a browse announces the instance that it names, and an error announces nothing and
leaves everything as it was. -/
theorem announcements_of_report {past rest : List Deed} {e : Deed} {h : Handle}
    {flags interfaceIndex code : Int} {name : String} {regtype domain : Option String}
    (hk : k.deeds = past ++ e :: rest)
    (he : e.event = .report h (.browse flags interfaceIndex code name regtype domain)) :
    (∀ ticket, ∀ x ∈ announcements ticket [e], k.loop.records.name x.record = name) ∧
      (code ≠ ErrorCode.noError → e.after.session = e.before.session ∧
        e.after.records = e.before.records ∧
        ∀ ticket, announcements ticket [e] = []) := by
  obtain ⟨k', rfl, hloop, hfollows⟩ := exists_before hk
  obtain ⟨o, -, -, hfits, -, htakes⟩ := hfollows.takes_report he
  have hsession : e.after.session = _ := htakes.session
  have hrecords : e.after.records = _ := htakes.records
  cases haddress : o.request.replyTo with
  | register | resolve id => simp [haddress, Reply.fits] at hfits
  | browse id =>
    rw [haddress] at htakes hsession hrecords
    have htransition := Session.transition_reply e.faults (s := e.before.session) e.before.records
      (.browse id) (.browse flags interfaceIndex code name regtype domain)
    have hinv : invocations e.outputs = _ := htakes.invocations_eq htransition
    obtain ⟨hs, hrs, hsilent⟩ | ⟨hcode, q, hq, htold⟩ := htransition.named_of_browse
    · have hnone (ticket : Nat) : announcements ticket [e] = [] := by
        refine announcements_of_still fun i hi => hsilent i ?_
        rwa [hinv, Option.mem_toList] at hi
      exact ⟨fun ticket x hx => (nomatch hnone ticket ▸ hx),
        fun _ => ⟨hsession.trans hs, hrecords.trans hrs, hnone⟩⟩
    · refine ⟨fun ticket x hx => ?_, fun h => absurd hcode h⟩
      obtain ⟨k'', hk'', hafter⟩ := exists_after hloop.symm hfollows
      have hstored : (e.after.records.get? x.record).isSome := by
        rw [← hafter]
        refine k''.presence.stored ticket x ?_
        rw [hk'', announcements_append]
        exact List.mem_append_right _ hx
      rw [(named_run hk).name _ hstored]
      obtain ⟨i, hi, hx⟩ := List.mem_filterMap.mp hx
      have hi := List.mem_of_mem_filter hi
      rw [outputsOf_singleton, hinv, Option.mem_toList] at hi
      obtain ⟨hon, -, x', hx', hname⟩ := htold i hi
      obtain rfl := Option.some.inj (hx.symm.trans hx')
      obtain hname | hlookup := hname
      · rw [hrecords, hname]
      · rw [← hloop] at hq
        have hmem := BrowseRequest.mem_of_lookup hlookup
        rw [k'.presence.tracked q hq hon] at hmem
        obtain ⟨hname, hadded⟩ := mem_present hmem
        exact ((named_step k' e hloop.symm).name _ (k'.presence.stored _ _ hadded)).trans hname

/-- The announcements of a browse are a presence history: each instance comes and goes in turn, as
one record, our own never does, and a live browse tracks at every point just the instances that are
there, in the order in which they came. An event announces the instance that it names, and an error
changes nothing. -/
theorem presence_history (k : History) :
    (∀ d ∈ k.deeds, ∀ constraints c answer, d.event = .request (.browse constraints c) answer →
      (∀ n, Alternate (named k.loop.records.name n (announcements c.ticket k.deeds))) ∧
      (∀ x ∈ announcements c.ticket k.deeds, k.loop.records.name x.record ≠ k.loop.session.uuid) ∧
      ∀ q ∈ k.loop.session.registry.browses.values, q.client = c → c.onResult = true →
        q.discovered = present k.loop.records.name (announcements c.ticket k.deeds)) ∧
    ∀ past rest e h flags interfaceIndex code name regtype domain, k.deeds = past ++ e :: rest →
      e.event = .report h (.browse flags interfaceIndex code name regtype domain) →
      (∀ ticket, ∀ x ∈ announcements ticket [e], k.loop.records.name x.record = name) ∧
        (code ≠ ErrorCode.noError → e.after.session = e.before.session ∧
          e.after.records = e.before.records ∧
          ∀ ticket, announcements ticket [e] = []) := by
  have hp := k.presence
  constructor
  · rintro - - - c - -
    refine ⟨hp.alternate c.ticket, hp.foreign c.ticket, ?_⟩
    rintro q hq rfl hon
    exact hp.tracked q hq hon
  · intro past rest e h flags interfaceIndex code name regtype domain hk he
    exact announcements_of_report hk he

def browsed : History :=
  (start "A" {} false {}).add {} (.request (.browse {} { ticket := 1 }) (.started 1 10))

def rediscovered : History :=
  let sees (flags code : Int) (name regtype : String) : Occurrence :=
    .report 1 (.browse flags 0 code name (some regtype) (some "local."))
  browsed.adds [sees 2 0 "B" "_ndn._udp.", .finish false, sees 3 0 "C" "_ndn._tcp.", .finish false,
    sees 2 0 "B" "_ndn._udp.", sees 2 0 "A" "_ndn._udp.", sees 2 0 "D" "_ndn",
    sees 2 (-65537) "B" "_ndn._udp.", .finish false,
      .request (.resolve 1 { ticket := 2 }) (.started 2 11),
    sees 1 0 "B" "_ndn._udp.", .finish false, sees 2 0 "B" "_ndn._udp."]

theorem presence_history_rediscovered :
    announcements 1 rediscovered.deeds = [.added 1, .added 2, .removed 1, .added 3] ∧
    (∀ n, Alternate (named rediscovered.loop.records.name n (announcements 1 rediscovered.deeds))) ∧
    (rediscovered.loop.session.registry.browses.values.map (·.discovered)) =
      [[("C", 2), ("B", 3)]] ∧
    ∀ q ∈ rediscovered.loop.session.registry.browses.values, q.client = { ticket := 1 } →
      q.discovered = present rediscovered.loop.records.name
        (announcements 1 rediscovered.deeds) := by
  obtain ⟨d, hd, hcall, -⟩ := exists_deed (start "A" {} false {}) {}
    (.request (.browse {} { ticket := 1 }) (.started 1 10)) (by decide +kernel)
  have hmem : d ∈ rediscovered.deeds := by
    refine (browsed.deeds_le_adds _).subset ?_
    rw [browsed, hd]
    simp
  obtain ⟨halternate, -, htracked⟩ := rediscovered.presence_history.1 d hmem _ _ _ hcall
  exact ⟨by decide +kernel, halternate, by decide +kernel,
    fun q hq hclient => htracked q hq hclient rfl⟩

end History
end ServiceDiscovery
