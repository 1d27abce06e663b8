import ServiceDiscovery.Proofs.Transition

/-!
The own record of a session. No browse tracks it and no resolve aims at it, so only the registration
changes it, and its state says whether there is a registration and whether it was confirmed.
-/
namespace ServiceDiscovery
namespace Records
variable {rs : Records} {i j : RecordId}

theorem get_modify_self (h : (rs.get? i).isSome) (f : Record → Record) :
    (rs.modify i f).get i = f (rs.get i) := by
  obtain ⟨r, hr⟩ := Option.isSome_iff_exists.mp h
  simp [get, hr]

theorem get_modify_of_ne (h : i ≠ j) (f : Record → Record) : (rs.modify i f).get j = rs.get j := by
  rw [get, get?_modify_of_ne rs f h, get]

theorem isSome_get?_modify (f : Record → Record) :
    ((rs.modify i f).get? j).isSome = (rs.get? j).isSome := by
  by_cases h : i = j
  · subst h
    simp
  · rw [get?_modify_of_ne rs f h]

theorem lt_nextId_of_isSome (h : (rs.get? i).isSome) : i < rs.nextId := by
  simpa [get?, nextId] using h

theorem get?_add_of_isSome (h : (rs.get? i).isSome) (r : Record) : (rs.add r).get? i = rs.get? i :=
  get?_add_of_lt rs r (lt_nextId_of_isSome h)

end Records

theorem BrowseRequest.mem_putRecord {name : String} {r : RecordId} {ds : List (String × RecordId)}
    {p : String × RecordId} (h : p ∈ putRecord name r ds) : p ∈ ds ∨ p = (name, r) := by
  induction ds with
  | nil => exact .inr (List.mem_singleton.mp h)
  | cons e es ih =>
    rw [putRecord] at h
    split at h
    · obtain rfl | h := List.mem_cons.mp h
      · exact .inr rfl
      · exact .inl (List.mem_cons_of_mem _ h)
    · obtain rfl | h := List.mem_cons.mp h
      · exact .inl List.mem_cons_self
      · exact (ih h).imp_left (List.mem_cons_of_mem _)

theorem BrowseRequest.mem_of_lookup {name : String} {r : RecordId} {ds : List (String × RecordId)}
    (h : ds.lookup name = some r) : (name, r) ∈ ds := by
  obtain ⟨before, after, heq, -⟩ := List.lookup_eq_some_iff.mp h
  simp [heq]

def Registration.shows (g : Registration) : ServiceState :=
  if g.settled then .registered else .registering

theorem Registration.isActive_shows (g : Registration) : g.shows.isActive = true := by
  unfold shows
  split <;> rfl

namespace Session
variable {s : Session} {rs : Records}

theorem settlement_fst (rs : Records) (q : ResolveRequest) (code : Int)
    (fullname hostTarget : Option String) (port : Int) (txt : Text.Octets) :
    ∃ f, (settlement rs q code fullname hostTarget port txt).1 = rs.modify q.target f := by
  obtain ⟨_, _, _, h⟩ | h := settlement_cases rs q code fullname hostTarget port txt
  · exact ⟨id, by simp [h, Records.modify]⟩
  · exact ⟨_, congrArg Prod.fst h⟩

theorem mem_of_tracker? {target : RecordId} {q : BrowseRequest}
    (h : s.tracker? rs target = some q) :
    q ∈ s.registry.browses.values ∧ ((rs.get target).uuid, target) ∈ q.discovered := by
  refine ⟨List.mem_of_find?_eq_some h, ?_⟩
  have hfound := List.find?_some h
  exact BrowseRequest.mem_of_lookup (beq_iff_eq.mp hfound)

structure OwnApart (s : Session) (rs : Records) : Prop where
  stored : (rs.get? s.own).isSome
  untracked : ∀ q ∈ s.registry.browses.values, ∀ p ∈ q.discovered, p.2 ≠ s.own
  untargeted : ∀ q ∈ s.registry.resolves.values, q.target ≠ s.own
  state : ∀ g, s.registration = some g → (s.ownRecord rs).state = g.shows

theorem OwnApart.registration_eq_none (ho : s.OwnApart rs)
    (hidle : (s.ownRecord rs).state.isActive = false) : s.registration = none := by
  cases hg : s.registration with
  | none => rfl
  | some g => simp [ho.state g hg, g.isActive_shows] at hidle

theorem OwnApart.registration_of_closing (ho : s.OwnApart rs) :
    (if (s.ownRecord rs).state.isActive then none else s.registration) = none := by
  split
  · rfl
  · rename_i hidle
    exact ho.registration_eq_none (by simpa using hidle)

theorem OwnApart.settled_iff (ho : s.OwnApart rs) {g : Registration}
    (hg : s.registration = some g) :
    g.settled = true ↔ (s.ownRecord rs).state = .registered := by
  rw [ho.state g hg, Registration.shows]
  cases g.settled <;> simp

theorem OwnApart.get_modify_own (ho : s.OwnApart rs) (f : Record → Record) :
    (rs.modify s.own f).get s.own = f (rs.get s.own) :=
  Records.get_modify_self ho.stored f

theorem OwnApart.get_add (ho : s.OwnApart rs) (r : Record) :
    (rs.add r).get s.own = rs.get s.own := by
  rw [Records.get, Records.get?_add_of_isSome ho.stored, Records.get]

theorem OwnApart.get_settlement (ho : s.OwnApart rs) {id : Int} {q : ResolveRequest}
    (hq : s.registry.resolves.get? id = some q) (code : Int) (fullname hostTarget : Option String)
    (port : Int) (txt : Text.Octets) :
    (settlement rs q code fullname hostTarget port txt).1.get s.own = rs.get s.own := by
  obtain ⟨f, hf⟩ := settlement_fst rs q code fullname hostTarget port txt
  rw [hf, Records.get_modify_of_ne (ho.untargeted _ (RequestTable.mem_values_of_get? hq))]

end Session

open Session in
theorem Transition.ownApart {faults : CloseFaults} {s : Session} {rs : Records} {m : Move}
    {t : Turn} (he : Transition faults s rs m t) (hs : s.Sound) (ho : s.OwnApart rs) :
    t.session.OwnApart t.records := by
  have hstored (f : Record → Record) (i : RecordId) : ((rs.modify i f).get? s.own).isSome :=
    (Records.isSome_get?_modify f).trans ho.stored
  cases he with
  | idle | refused | orphaned | browseFailed =>
    exact ⟨ho.stored, ho.untracked, ho.untargeted, ho.state⟩
  | announced =>
    refine ⟨hstored _ _, ho.untracked, ho.untargeted, ?_⟩
    rintro g ⟨⟩
    simp [ownRecord, ho.get_modify_own, advertised, Registration.shows]
  | confirmed hg =>
    refine ⟨hstored _ _, ho.untracked, ho.untargeted, ?_⟩
    rintro g ⟨⟩
    simp [ownRecord, ho.get_modify_own, confirmedIn, Registration.shows]
  | lost => exact ⟨hstored _ _, ho.untracked, ho.untargeted, fun g hg => nomatch hg⟩
  | lostFaulty => exact ⟨ho.stored, ho.untracked, ho.untargeted, fun g hg => nomatch hg⟩
  | browsing =>
    refine ⟨ho.stored, ?_, ho.untargeted, ho.state⟩
    intro q hq
    rw [hs.browses.values_insert] at hq
    cases List.mem_append.mp hq with
    | inl hold => exact ho.untracked q hold
    | inr hnew =>
      rw [List.mem_singleton.mp hnew]
      exact fun p hp => nomatch hp
  | appeared =>
    refine ⟨by rw [Records.get?_add_of_isSome ho.stored]; exact ho.stored, ?_, ho.untargeted, ?_⟩
    · intro q' hq' p hp
      obtain ⟨q₀, hq₀, rfl | rfl⟩ := RequestTable.mem_values_modify hq'
      · exact ho.untracked _ hq₀ p hp
      · obtain hold | rfl := BrowseRequest.mem_putRecord hp
        · exact ho.untracked _ hq₀ p hold
        · exact (Nat.ne_of_lt (Records.lt_nextId_of_isSome ho.stored)).symm
    · intro g hg
      rw [← ho.state g hg, ownRecord, ho.get_add, ownRecord]
  | vanished =>
    refine ⟨ho.stored, ?_, ho.untargeted, ho.state⟩
    intro q' hq' p hp
    obtain ⟨q₀, hq₀, rfl | rfl⟩ := RequestTable.mem_values_modify hq'
    · exact ho.untracked _ hq₀ p hp
    · exact ho.untracked _ hq₀ p (List.mem_of_mem_filter hp)
  | cancelled =>
    exact ⟨ho.stored, fun q hq => ho.untracked q (RequestTable.mem_values_of_mem_erase hq),
      ho.untargeted, ho.state⟩
  | resolving _ hq =>
    refine ⟨ho.stored, ho.untracked, ?_, ho.state⟩
    intro q' hq'
    rw [hs.resolves.values_insert] at hq'
    cases List.mem_append.mp hq' with
    | inl hold => exact ho.untargeted q' hold
    | inr hnew =>
      rw [List.mem_singleton.mp hnew]
      obtain ⟨hlive, htracked⟩ := mem_of_tracker? hq
      exact ho.untracked _ hlive _ htracked
  | answered hq =>
    refine ⟨?_, ho.untracked, fun q hq => ho.untargeted q (RequestTable.mem_values_of_mem_erase hq),
      ?_⟩
    · obtain ⟨f, hf⟩ := settlement_fst rs _ _ _ _ _ _
      rw [hf]
      exact hstored _ _
    · intro g hg
      rw [← ho.state g hg, ownRecord, ho.get_settlement hq, ownRecord]
  | answeredFaulty =>
    exact ⟨ho.stored, ho.untracked,
      fun q hq => ho.untargeted q (RequestTable.mem_values_of_mem_erase hq), ho.state⟩
  | closed =>
    refine ⟨?_, (fun q hq => nomatch hq), (fun q hq => nomatch hq), ?_⟩
    · split
      · exact hstored _ _
      · exact ho.stored
    · intro g hg
      cases hg.symm.trans ho.registration_of_closing

open Session in
/-- A turn that raises nothing from closing a handle leaves no active own record without a
registration. -/
theorem Transition.isSome_registration {faults : CloseFaults} {s : Session} {rs : Records}
    {m : Move} {t : Turn} (he : Transition faults s rs m t) (ho : s.OwnApart rs)
    (hfaults : ∀ h, faults.escaping h = none)
    (hs : (s.ownRecord rs).state.isActive = true → s.registration.isSome)
    (ht : (t.session.ownRecord t.records).state.isActive = true) :
    t.session.registration.isSome := by
  cases he with
  | announced | confirmed => rfl
  | lost => simp [ownRecord, ho.get_modify_own, ServiceState.isActive] at ht
  | lostFaulty _ hfault => simp [hfaults] at hfault
  | appeared =>
    rw [ownRecord, ho.get_add] at ht
    exact hs ht
  | answered hq =>
    rw [ownRecord, ho.get_settlement hq] at ht
    exact hs ht
  | closed =>
    by_cases hactive : (s.ownRecord rs).state.isActive = true
    · simp only [hactive, if_true] at ht
      rw [ownRecord, ho.get_modify_own] at ht
      cases ht
    · simp only [hactive] at ht
      exact absurd ht hactive
  | _ => exact hs ht

end ServiceDiscovery
