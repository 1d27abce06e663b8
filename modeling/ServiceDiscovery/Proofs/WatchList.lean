import ServiceDiscovery.Multiplexer
import ServiceDiscovery.Proofs.Keyed

/-!
The watch list of a multiplexer. Its map and its selector hold the same pairs, each descriptor once,
so neither of the selector's failures can happen, and removing a handle takes out that handle alone.
-/
namespace ServiceDiscovery
namespace Selector

theorem register_of_notMem {s : Selector} {d : Int} (h : Handle) (hd : d ∉ s.registered.map (·.1)) :
    s.register d h = .ok ⟨s.registered ++ [(d, h)]⟩ := by
  rw [register, if_neg]
  rwa [Keyed.lookup_isSome_iff]

theorem unregister_of_mem {s : Selector} {d : Int} (hd : d ∈ s.registered.map (·.1)) :
    s.unregister d = .ok ⟨s.registered.filter (·.1 != d)⟩ := by
  rw [unregister, if_pos]
  rwa [Keyed.lookup_isSome_iff]

end Selector

namespace Multiplexer
variable {m : Multiplexer} {h h' : Handle} {d : Int}

def handles (m : Multiplexer) : List Handle := m.watched.map (·.2)

/-- The selector registers just what the map holds, and no descriptor stands twice. -/
structure InStep (m : Multiplexer) : Prop where
  nodup : (m.watched.map (·.1)).Nodup
  perm : m.selector.registered.Perm m.watched

theorem inStep_empty : InStep {} := ⟨List.nodup_nil, List.Perm.refl _⟩

theorem InStep.mem_registered_iff (hm : m.InStep) :
    d ∈ m.selector.registered.map (·.1) ↔ d ∈ m.watched.map (·.1) :=
  (hm.perm.map _).mem_iff

theorem put_of_notMem {l : List (Int × Handle)} (hd : d ∉ l.map (·.1)) :
    put d h l = l ++ [(d, h)] := by
  induction l with
  | nil => rfl
  | cons e es ih =>
    obtain ⟨hne, hes⟩ := not_or.mp (List.mem_cons.not.mp hd)
    rw [put, if_neg (Ne.symm hne), ih hes]
    rfl

theorem map_fst_put_of_mem {l : List (Int × Handle)} (hd : d ∈ l.map (·.1)) :
    (put d h l).map (·.1) = l.map (·.1) := by
  induction l with
  | nil => cases hd
  | cons e es ih =>
    by_cases he : e.1 = d
    · simp [put, he]
    · have hes : d ∈ es.map (·.1) := (List.mem_cons.mp hd).resolve_left (Ne.symm he)
      simpa [put, he] using ih hes

theorem perm_put {l : List (Int × Handle)} (hn : (l.map (·.1)).Nodup) :
    (put d h l).Perm ((d, h) :: l.filter (·.1 != d)) := by
  induction l with
  | nil => exact List.Perm.refl _
  | cons e es ih =>
    obtain ⟨hne, hes⟩ := List.nodup_cons.mp hn
    by_cases he : e.1 = d
    · have hall : es.filter (·.1 != d) = es := by
        rw [List.filter_eq_self]
        intro e' he'
        simpa using fun hk : e'.1 = d => hne (List.mem_map.mpr ⟨e', he', hk.trans he.symm⟩)
      simp [put, he, hall]
    · have hkeep : (e :: es).filter (·.1 != d) = e :: es.filter (·.1 != d) := by simp [he]
      rw [put, if_neg he, hkeep]
      exact ((ih hes).cons e).trans (List.Perm.swap _ _ _)

/-- Watching a handle never fails. It displaces whatever had its descriptor, and nothing else. -/
theorem InStep.add (hm : m.InStep) (h : Handle) (d : Int) :
    (∃ b, (m.add h d).1 = .ok b) ∧ (m.add h d).2.InStep ∧ (m.add h d).2.closed = m.closed ∧
      (m.add h d).2.watched.Perm ((d, h) :: m.watched.filter (·.1 != d)) := by
  have hout : d ∉ (m.selector.registered.filter (·.1 != d)).map (·.1) := by simp
  cases hprev : m.watched.lookup d with
  | none =>
    have hd : d ∉ m.watched.map (·.1) := by
      rw [← Keyed.lookup_isSome_iff, hprev]
      simp
    have hreg : m.selector.register d h = .ok ⟨m.selector.registered ++ [(d, h)]⟩ :=
      Selector.register_of_notMem h (hm.mem_registered_iff.not.mpr hd)
    have hadd : m.add h d = (.ok true, { m with
        selector := ⟨m.selector.registered ++ [(d, h)]⟩, watched := m.watched ++ [(d, h)] }) := by
      simp [Multiplexer.add, hprev, hreg, put_of_notMem hd]
    rw [hadd]
    refine ⟨⟨true, rfl⟩, ⟨?_, hm.perm.append_right _⟩, rfl, ?_⟩
    · rw [List.map_append, List.nodup_append]
      refine ⟨hm.nodup, List.nodup_singleton _, ?_⟩
      rintro a ha b hb rfl
      rw [List.mem_singleton.mp hb] at ha
      exact hd ha
    · rw [← put_of_notMem hd]
      exact perm_put hm.nodup
  | some old =>
    by_cases hold : old = h
    · have hmem : (d, h) ∈ m.watched := (Keyed.lookup_eq_some_iff hm.nodup).mp (hold ▸ hprev)
      have hadd : m.add h d = (.ok false, m) := by simp [Multiplexer.add, hprev, hold]
      rw [hadd]
      exact ⟨⟨false, rfl⟩, hm, rfl, Keyed.perm_cons_filter hm.nodup hmem⟩
    · have hd : d ∈ m.watched.map (·.1) := by
        rw [← Keyed.lookup_isSome_iff, hprev]
        rfl
      have hfree := Selector.unregister_of_mem (hm.mem_registered_iff.mpr hd)
      have hreg := Selector.register_of_notMem (s := ⟨_⟩) h hout
      have hadd : m.add h d = (.ok true, { m with
          selector := ⟨m.selector.registered.filter (·.1 != d) ++ [(d, h)]⟩,
          watched := put d h m.watched }) := by
        simp [Multiplexer.add, hprev, hold, hfree, hreg]
      rw [hadd]
      refine ⟨⟨true, rfl⟩, ⟨?_, ?_⟩, rfl, perm_put hm.nodup⟩
      · rw [map_fst_put_of_mem hd]
        exact hm.nodup
      · exact ((hm.perm.filter _).append_right _).trans
          ((List.perm_append_singleton _ _).trans (perm_put hm.nodup).symm)

theorem InStep.isWatching_iff (hm : m.InStep) : m.isWatching d h = true ↔ (d, h) ∈ m.watched := by
  rw [isWatching, beq_iff_eq, Keyed.lookup_eq_some_iff hm.nodup]

theorem InStep.mem_watched_add (hm : m.InStep) (h : Handle) (d : Int) :
    (d, h) ∈ (m.add h d).2.watched :=
  (hm.add h d).2.2.2.mem_iff.mpr List.mem_cons_self

theorem InStep.isWatching_add (hm : m.InStep) (h : Handle) (d : Int) :
    (m.add h d).2.isWatching d h = true :=
  (hm.add h d).2.1.isWatching_iff.mpr (hm.mem_watched_add h d)

theorem InStep.mem_handles_add (hm : m.InStep) (hh : h' ∈ (m.add h d).2.handles) :
    h' = h ∨ h' ∈ m.handles := by
  have hperm := ((hm.add h d).2.2.2.map (·.2)).mem_iff.mp hh
  obtain rfl | hold := List.mem_cons.mp hperm
  · exact .inl rfl
  · exact .inr ((List.filter_sublist.map _).subset hold)

theorem InStep.nodup_handles_add (hm : m.InStep) (hn : m.handles.Nodup) (hh : h ∉ m.handles) :
    (m.add h d).2.handles.Nodup := by
  refine ((hm.add h d).2.2.2.map (·.2)).nodup_iff.mpr (List.nodup_cons.mpr ⟨?_, ?_⟩)
  · exact fun hold => hh ((List.filter_sublist.map _).subset hold)
  · exact (List.filter_sublist.map _).nodup hn

theorem InStep.perm_add_of_notMem (hm : m.InStep) (hd : d ∉ m.watched.map (·.1)) :
    (m.add h d).2.watched.Perm ((d, h) :: m.watched) := by
  have hall : m.watched.filter (·.1 != d) = m.watched := by
    rw [List.filter_eq_self]
    intro e he
    simpa using fun hk : e.1 = d => hd (List.mem_map.mpr ⟨e, he, hk⟩)
  rw [← hall]
  exact (hm.add h d).2.2.2.trans (by rw [hall])

theorem watched_remove (hm : m.InStep) (hn : m.handles.Nodup) (h : Handle) :
    (m.remove h).2.watched = m.watched.filter (·.2 != h) := by
  cases hfind : m.watched.find? (·.2 == h) with
  | none =>
    have hall : m.watched.filter (·.2 != h) = m.watched := by
      rw [List.filter_eq_self]
      intro e he
      simpa using List.find?_eq_none.mp hfind e he
    simp [remove, descriptorOf?, hfind, hall]
  | some e =>
    have hmem := List.mem_of_find?_eq_some hfind
    have heq : e.2 = h := by simpa using List.find?_some hfind
    simp only [remove, descriptorOf?, hfind, Option.map_some]
    refine List.filter_congr fun e' he' => ?_
    have hiff : e'.1 = e.1 ↔ e'.2 = h := by
      constructor
      · intro hk
        rw [Keyed.key_eq_of_mem hm.nodup he' hmem hk, heq]
      · intro hk
        rw [List.inj_on_of_nodup_map hn he' hmem (hk.trans heq.symm)]
    rw [Bool.eq_iff_iff, bne_iff_ne, bne_iff_ne, ne_eq, ne_eq, hiff]

theorem handles_remove (hm : m.InStep) (hn : m.handles.Nodup) (h : Handle) :
    (m.remove h).2.handles = m.handles.filter (· != h) := by
  rw [handles, watched_remove hm hn, handles, List.filter_map]
  rfl

theorem watched_remove_sublist (m : Multiplexer) (h : Handle) :
    (m.remove h).2.watched.Sublist m.watched := by
  unfold remove
  split
  · exact List.Sublist.refl _
  · exact List.filter_sublist

theorem closed_remove (m : Multiplexer) (h : Handle) : (m.remove h).2.closed = m.closed := by
  unfold remove
  split <;> rfl

theorem InStep.remove (hm : m.InStep) (h : Handle) : (m.remove h).2.InStep := by
  unfold Multiplexer.remove
  split
  · exact hm
  · rename_i d hd
    have hmem : d ∈ m.watched.map (·.1) := by
      obtain ⟨e, he, rfl⟩ := Option.map_eq_some_iff.mp hd
      exact List.mem_map_of_mem (List.mem_of_find?_eq_some he)
    rw [Selector.unregister_of_mem (hm.mem_registered_iff.mpr hmem)]
    exact ⟨Keyed.nodup_filter hm.nodup _, hm.perm.filter _⟩

theorem wait_eq_ok {timeoutMs : Int} {reported : List Int} {fault : Option Fault}
    {ready : List (Int × Handle)} (h : m.wait timeoutMs reported fault = .ok ready) :
    ready = m.ready reported := by
  unfold wait at h
  split at h
  · rename_i hclosed
    rw [Multiplexer.ready, if_pos hclosed]
    exact (Except.ok.inj h).symm
  split at h
  · cases h
  cases fault with
  | none => exact (Except.ok.inj h).symm
  | some f => cases h

theorem InStep.mem_ready (hm : m.InStep) {reported : List Int} {e : Int × Handle}
    (he : e ∈ m.ready reported) : e ∈ m.watched := by
  unfold ready at he
  split at he
  · cases he
  obtain ⟨d, -, hlookup⟩ := List.mem_filterMap.mp he
  obtain ⟨h, hh, rfl⟩ := Option.map_eq_some_iff.mp hlookup
  obtain ⟨before, after, hregistered, -⟩ := List.lookup_eq_some_iff.mp hh
  exact hm.perm.mem_iff.mp (by simp [hregistered])

theorem map_fst_ready_sublist (m : Multiplexer) (reported : List Int) :
    ((m.ready reported).map (·.1)).Sublist reported := by
  unfold ready
  split
  · exact List.nil_sublist _
  induction reported with
  | nil => exact List.Sublist.refl _
  | cons d ds ih =>
    rw [Selector.ready, List.filterMap_cons]
    cases m.selector.registered.lookup d with
    | none => exact ih.cons d
    | some h => exact ih.cons_cons d

/-- No wait finds a handle twice, as long as it reports no descriptor twice. -/
theorem InStep.nodup_ready (hm : m.InStep) (hn : m.handles.Nodup) {reported : List Int}
    (hreported : reported.Nodup) : ((m.ready reported).map (·.2)).Nodup := by
  have hapart : (m.ready reported).Nodup :=
    ((m.map_fst_ready_sublist reported).nodup hreported).of_map _
  refine hapart.map_on fun e he e' he' hhandle => ?_
  exact List.inj_on_of_nodup_map hn (hm.mem_ready he) (hm.mem_ready he') hhandle

end Multiplexer
end ServiceDiscovery
