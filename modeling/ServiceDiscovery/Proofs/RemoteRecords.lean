import ServiceDiscovery.Proofs.Presence

/-!
The records of others. Whatever a browse announces or tracks and whatever a resolve aims at was made
after the own record, and no two browses track the same one.
-/
namespace ServiceDiscovery
namespace Session

def Others (s : Session) (rs : Records) (i : RecordId) : Prop := s.own < i ∧ (rs.get? i).isSome

structure Remote (s : Session) (rs : Records) : Prop where
  tracked : ∀ q ∈ s.registry.browses.values, ∀ p ∈ q.discovered, s.Others rs p.2
  targeted : ∀ q ∈ s.registry.resolves.values, s.Others rs q.target
  apart : ∀ q ∈ s.registry.browses.values, ∀ q' ∈ s.registry.browses.values,
    ∀ p ∈ q.discovered, ∀ p' ∈ q'.discovered, p.2 = p'.2 → q.id = q'.id

end Session

theorem Loop.not_others_start (uuid : String) (codec : Txt.Codec) (ownsProvider : Bool)
    (records : Records) (i : RecordId) :
    ¬(start uuid codec ownsProvider records).session.Others
      (start uuid codec ownsProvider records).records i := by
  rintro ⟨hlater, hstored⟩
  have hlt := Records.lt_nextId_of_isSome hstored
  simp only [start, Records.add, Records.nextId, List.length_append, List.length_singleton]
    at hlt hlater
  exact absurd (Nat.le_of_lt_succ hlt) (Nat.not_le_of_gt hlater)

/-- What is tracked after a turn was tracked before by the same browse, or it is a new record, which
one browse alone tracks. -/
theorem Spotting.tracked {m : Move} {s s' : Session} {rs rs' : Records} {o : Option Invocation}
    (h : Spotting m s rs s' rs' o) : ∃ id, ∀ q' ∈ s'.registry.browses.values, ∀ p ∈ q'.discovered,
      (∃ q ∈ s.registry.browses.values, q.id = q'.id ∧ p ∈ q.discovered) ∨
        p.2 = rs.nextId ∧ (rs'.get? p.2).isSome ∧ q'.id = id := by
  cases h with
  | still hs' => exact ⟨0, fun q' hq' p hp => .inl ⟨q', hs' q' hq', rfl, hp⟩⟩
  | begun _ _ hnone hs' =>
    refine ⟨0, fun q' hq' p hp => ?_⟩
    obtain rfl | hq' := hs' q' hq'
    · rw [hnone] at hp
      cases hp
    · exact .inl ⟨q', hq', rfl, hp⟩
  | @came q name record hq _ _ _ hrs' hs' =>
    refine ⟨q.id, fun q' hq' p hp => ?_⟩
    obtain rfl | ⟨hq', -⟩ := hs' q' hq'
    · obtain hp | rfl := BrowseRequest.mem_putRecord hp
      · exact .inl ⟨q, hq, rfl, hp⟩
      · exact .inr ⟨rfl, by simp [hrs'], rfl⟩
    · exact .inl ⟨q', hq', rfl, hp⟩
  | @went q name r hq _ hs' =>
    refine ⟨0, fun q' hq' p hp => .inl ?_⟩
    obtain rfl | ⟨hq', -⟩ := hs' q' hq'
    · exact ⟨q, hq, rfl, List.mem_of_mem_filter hp⟩
    · exact ⟨q', hq', rfl, hp⟩

namespace Transition
variable {faults : CloseFaults} {s : Session} {rs : Records} {m : Move} {t : Turn}

theorem own_eq (he : Transition faults s rs m t) : t.session.own = s.own := by
  cases he <;> rfl

theorem target_tracked (he : Transition faults s rs m t) (hs : s.Sound) :
    ∀ q ∈ t.session.registry.resolves.values, q ∈ s.registry.resolves.values ∨
      ∃ b ∈ s.registry.browses.values, ∃ p ∈ b.discovered, p.2 = q.target := by
  intro q hq
  cases he with
  | resolving _ hb =>
    rw [hs.resolves.values_insert] at hq
    refine (List.mem_append.mp hq).imp_right fun hq => ?_
    obtain rfl := List.mem_singleton.mp hq
    obtain ⟨hb, hp⟩ := Session.mem_of_tracker? hb
    exact ⟨_, hb, _, hp, rfl⟩
  | answered | answeredFaulty => exact .inl (RequestTable.mem_values_of_mem_erase hq)
  | closed => cases hq
  | _ => exact .inl hq

theorem others (he : Transition faults s rs m t) {i : RecordId} (hi : s.Others rs i) :
    t.session.Others t.records i :=
  ⟨he.own_eq ▸ hi.1, he.named.stored i hi.2⟩

theorem remote (he : Transition faults s rs m t) (hs : s.Sound) (ho : s.OwnApart rs)
    (h : s.Remote rs) : t.session.Remote t.records := by
  obtain ⟨id, htracked⟩ := (he.spotting hs).tracked
  -- the number of a new record is that of no tracked one
  have hnew {q : BrowseRequest} {p : String × RecordId} (hq : q ∈ s.registry.browses.values)
      (hp : p ∈ q.discovered) : p.2 ≠ rs.nextId :=
    Nat.ne_of_lt (Records.lt_nextId_of_isSome (h.tracked q hq p hp).2)
  refine ⟨fun q' hq' p hp => ?_, fun q hq => ?_, fun q hq q' hq' p hp p' hp' heq => ?_⟩
  · obtain ⟨q, hq, -, hp⟩ | ⟨hnext, hstored, -⟩ := htracked q' hq' p hp
    · exact he.others (h.tracked q hq p hp)
    · exact ⟨by rw [he.own_eq, hnext]; exact Records.lt_nextId_of_isSome ho.stored, hstored⟩
  · obtain hq | ⟨b, hb, p, hp, htarget⟩ := he.target_tracked hs q hq
    · exact he.others (h.targeted q hq)
    · exact htarget ▸ he.others (h.tracked b hb p hp)
  · obtain ⟨b, hb, hid, hp⟩ | ⟨hnext, -, hid⟩ := htracked q hq p hp <;>
      obtain ⟨b', hb', hid', hp'⟩ | ⟨hnext', -, hid'⟩ := htracked q' hq' p' hp'
    · rw [← hid, ← hid']
      exact h.apart b hb b' hb' p hp p' hp' heq
    · exact absurd (heq.trans hnext') (hnew hb hp)
    · exact absurd (heq.symm.trans hnext) (hnew hb' hp')
    · rw [hid, hid']

end Transition

namespace History
variable {k : History}

theorem remote (k : History) : k.loop.session.Remote k.loop.records := by
  refine invariant (P := fun _ s rs => s.Remote rs) ?_ ?_ ?_ k
  · exact fun _ _ _ _ => ⟨fun q hq => (nomatch hq), fun q hq => (nomatch hq),
      fun q hq => (nomatch hq)⟩
  · exact fun _ _ _ _ _ h _ => h
  · exact fun k _ _ _ _ h he _ => he.remote k.sound k.ownApart h

theorem browse_of_id {q q' : BrowseRequest} (hq : q ∈ k.loop.session.registry.browses.values)
    (hq' : q' ∈ k.loop.session.registry.browses.values) (hid : q.id = q'.id) : q = q' := by
  have hget := k.sound.browses.mem_values_iff.mp hq
  have hget' := k.sound.browses.mem_values_iff.mp hq'
  rw [hid, hget'] at hget
  exact (Option.some.inj hget).symm

theorem announced_others (k : History) : ∀ ticket, ∀ x ∈ announcements ticket k.deeds,
    k.loop.session.Others k.loop.records x.record := by
  suffices hlater : ∀ ticket, ∀ x ∈ announcements ticket k.deeds, k.loop.session.own < x.record from
    fun ticket x hx => ⟨hlater ticket x hx, k.presence.stored ticket x hx⟩
  refine invariant (P := fun ds s _ => ∀ ticket, ∀ x ∈ announcements ticket ds, s.own <
    x.record) ?_ ?_ ?_ k
  · exact fun _ _ _ _ ticket x hx => nomatch hx
  · intro k d _ _ _ hP hkeeps ticket x hx
    have hnone : invocations d.outputs = [] := hkeeps.invocations
    rw [announcements_append, announcements_of_still (by simp [hnone]), List.append_nil] at hx
    exact hP ticket x hx
  · intro k d t _ _ hP he ht ticket x hx
    rw [he.own_eq]
    obtain hx | hx := List.mem_append.mp (announcements_append ticket _ _ ▸ hx)
    · exact hP ticket x hx
    have hinv : invocations d.outputs = t.next.invocation?.toList := ht.invocations_eq he
    obtain ⟨i, hi, hx⟩ := List.mem_filterMap.mp hx
    have hi := List.mem_of_mem_filter hi
    rw [outputsOf_singleton, hinv, Option.mem_toList] at hi
    have hspotting := he.spotting k.sound
    generalize t.next.invocation? = told at hspotting hi
    cases hspotting with
    | still _ ho => cases (ho i hi).symm.trans hx
    | begun => cases hi
    | came =>
      split at hi
      · obtain rfl := Option.some.inj hi
        obtain rfl := Option.some.inj hx
        exact Records.lt_nextId_of_isSome k.ownApart.stored
      · cases hi
    | went hq hr =>
      split at hi
      · obtain rfl := Option.some.inj hi
        obtain rfl := Option.some.inj hx
        exact (k.remote.tracked _ hq _ (BrowseRequest.mem_of_lookup hr)).1
      · cases hi

end History
end ServiceDiscovery
