import ServiceDiscovery.Proofs.Keyed
import ServiceDiscovery.Registry

/-!
Tables of requests under way. Ids ascend strictly and each request carries its own id, so the next
id is above all others and a new request goes to the end.
-/
namespace ServiceDiscovery
namespace RequestTable
variable {α : Type} {idOf : α → Int} {t : RequestTable α} {id : Int} {a b : α}

structure Numbered (idOf : α → Int) (t : RequestTable α) : Prop where
  ascending : t.ids.Pairwise (· < ·)
  own : ∀ e ∈ t.entries, idOf e.2 = e.1

theorem numbered_empty : Numbered idOf ({} : RequestTable α) :=
  ⟨List.Pairwise.nil, fun _ h => nomatch h⟩

theorem Numbered.nodup (h : Numbered idOf t) : (t.entries.map (·.1)).Nodup :=
  h.ascending.imp fun hlt => Int.ne_of_lt hlt

theorem Numbered.get?_eq_some_iff (h : Numbered idOf t) :
    t.get? id = some a ↔ (id, a) ∈ t.entries :=
  Keyed.lookup_eq_some_iff h.nodup

theorem Numbered.id_of_get? (h : Numbered idOf t) (hg : t.get? id = some a) : idOf a = id :=
  h.own _ (h.get?_eq_some_iff.mp hg)

theorem Numbered.mem_values_iff (h : Numbered idOf t) :
    a ∈ t.values ↔ t.get? (idOf a) = some a := by
  rw [h.get?_eq_some_iff]
  constructor
  · intro ha
    obtain ⟨e, he, rfl⟩ := List.mem_map.mp ha
    have hid := h.own e he
    rwa [hid]
  · exact fun ha => List.mem_map.mpr ⟨_, ha, rfl⟩

theorem mem_values_of_get? (hg : t.get? id = some a) : a ∈ t.values := by
  obtain ⟨l, r, hl, -⟩ := List.lookup_eq_some_iff.mp hg
  exact List.mem_map.mpr ⟨(id, a), by simp [hl], rfl⟩

theorem get?_eq_none_of_values (hnone : t.values = []) (id : Int) : t.get? id = none := by
  cases hq : t.get? id with
  | none => rfl
  | some a =>
    have hmem := mem_values_of_get? hq
    rw [hnone] at hmem
    cases hmem

theorem lt_nextId (h : t.ids.Pairwise (· < ·)) {i : Int} (hi : i ∈ t.ids) : i < t.nextId := by
  obtain ⟨e, he, rfl⟩ := List.mem_map.mp hi
  have hne : t.entries ≠ [] := List.ne_nil_of_mem he
  have hsplit := List.dropLast_append_getLast hne
  rw [ids, ← hsplit, List.map_append, List.pairwise_append] at h
  rw [← hsplit] at he
  have hnext : t.nextId = (t.entries.getLast hne).1 + 1 := by
    simp [nextId, List.getLast?_eq_getLast_of_ne_nil hne]
  rw [hnext]
  cases List.mem_append.mp he with
  | inl hinit =>
    have hlt :=
      h.2.2 e.1 (List.mem_map_of_mem hinit) _ (List.mem_map_of_mem (List.mem_singleton_self _))
    omega
  | inr hlast =>
    rw [List.mem_singleton.mp hlast]
    omega

theorem insertEntry_eq_append {es : List (Int × α)} (h : ∀ e ∈ es, e.1 < id) :
    insertEntry id a es = es ++ [(id, a)] := by
  induction es with
  | nil => rfl
  | cons e es ih =>
    have he := h e (by simp)
    rw [insertEntry, if_neg (by omega), ih fun e' he' => h e' (List.mem_cons_of_mem _ he')]
    rfl

theorem Numbered.entries_insert (h : Numbered idOf t) :
    (t.insert t.nextId a).entries = t.entries ++ [(t.nextId, a)] :=
  insertEntry_eq_append fun _ he => lt_nextId h.ascending (List.mem_map_of_mem he)

theorem Numbered.values_insert (h : Numbered idOf t) :
    (t.insert t.nextId a).values = t.values ++ [a] := by
  simp [values, h.entries_insert]

theorem Numbered.get?_nextId (h : Numbered idOf t) : t.get? t.nextId = none := by
  rw [get?, List.lookup_eq_none_iff]
  intro e he
  have hlt := lt_nextId h.ascending (List.mem_map_of_mem (f := (·.1)) he)
  simpa using (Int.ne_of_lt hlt).symm

theorem Numbered.insert (h : Numbered idOf t) (ha : idOf a = t.nextId) :
    Numbered idOf (t.insert t.nextId a) := by
  refine ⟨?_, ?_⟩
  · rw [ids, h.entries_insert, List.map_append, List.pairwise_append]
    refine ⟨h.ascending, List.pairwise_singleton _ _, ?_⟩
    intro i hi j hj
    rw [List.mem_singleton.mp hj]
    exact lt_nextId h.ascending hi
  · rw [h.entries_insert]
    intro e he
    cases List.mem_append.mp he with
    | inl hold => exact h.own e hold
    | inr hnew =>
      rw [List.mem_singleton.mp hnew]
      exact ha

theorem Numbered.get?_insert_nextId (h : Numbered idOf t) (a : α) :
    (t.insert t.nextId a).get? t.nextId = some a := by
  rw [get?, h.entries_insert, List.lookup_append, ← get?, h.get?_nextId]
  simp

theorem Numbered.erase (h : Numbered idOf t) (id : Int) : Numbered idOf (t.erase id) :=
  ⟨h.ascending.sublist (List.filter_sublist.map _), fun e he => h.own e (List.mem_of_mem_filter he)⟩

theorem mem_values_of_mem_erase (ha : a ∈ (t.erase id).values) : a ∈ t.values := by
  obtain ⟨e, he, rfl⟩ := List.mem_map.mp ha
  exact List.mem_map_of_mem (List.mem_of_mem_filter he)

theorem Numbered.perm_erase (h : Numbered idOf t) (hg : t.get? id = some a) :
    t.values.Perm (a :: (t.erase id).values) :=
  (Keyed.perm_cons_filter h.nodup (h.get?_eq_some_iff.mp hg)).map Prod.snd

theorem values_modify {β : Type} (f : α → α) (g : α → β) (hf : ∀ a, g (f a) = g a) :
    (t.modify id f).values.map g = t.values.map g := by
  simp only [values, modify, List.map_map]
  refine List.map_congr_left fun e _ => ?_
  by_cases he : e.1 = id <;> simp [he, hf]

theorem Numbered.modify (h : Numbered idOf t) {f : α → α} (hf : ∀ a, idOf (f a) = idOf a) :
    Numbered idOf (t.modify id f) := by
  refine ⟨?_, ?_⟩
  · have hids : (t.modify id f).ids = t.ids := by
      simp only [ids, RequestTable.modify, List.map_map]
      refine List.map_congr_left fun e _ => ?_
      by_cases he : e.1 = id <;> simp [he]
    rw [hids]
    exact h.ascending
  · intro e he
    obtain ⟨e', he', rfl⟩ := List.mem_map.mp he
    by_cases hid : e'.1 = id <;> simp [hid, hf, h.own e' he']

theorem get?_modify_self (f : α → α) (hg : t.get? id = some a) :
    (t.modify id f).get? id = some (f a) := by
  obtain ⟨entries⟩ := t
  simp only [get?, RequestTable.modify] at hg ⊢
  induction entries with
  | nil => cases hg
  | cons e es ih =>
    obtain ⟨i, b⟩ := e
    by_cases hi : id = i
    · subst hi
      obtain rfl : b = a := by simpa using hg
      simp
    · have hne : (id == i) = false := by simpa using hi
      rw [List.lookup_cons, hne] at hg
      rw [List.map_cons, if_neg (Ne.symm hi), List.lookup_cons, hne]
      exact ih hg

theorem mem_values_modify {f : α → α} (hb : b ∈ (t.modify id f).values) :
    ∃ a ∈ t.values, b = a ∨ b = f a := by
  simp only [values, RequestTable.modify, List.map_map, List.mem_map] at hb
  obtain ⟨e, he, rfl⟩ := hb
  refine ⟨e.2, List.mem_map_of_mem he, ?_⟩
  by_cases hid : e.1 = id <;> simp [hid]

theorem Numbered.mem_values_modify (h : Numbered idOf t) {f : α → α} (hg : t.get? id = some a)
    (hb : b ∈ (t.modify id f).values) : b = f a ∨ b ∈ t.values ∧ idOf b ≠ id := by
  obtain ⟨_, he', rfl⟩ := List.mem_map.mp hb
  obtain ⟨e, he, rfl⟩ := List.mem_map.mp he'
  by_cases hid : e.1 = id
  · rw [if_pos hid]
    have he : (id, e.2) ∈ t.entries := hid ▸ he
    exact .inl (congrArg f (Option.some.inj ((h.get?_eq_some_iff.mpr he).symm.trans hg)))
  · rw [if_neg hid]
    exact .inr ⟨List.mem_map_of_mem he, (h.own e he).trans_ne hid⟩

end RequestTable

namespace BrowseRequest
variable (q : BrowseRequest) (name : String) (r : RecordId)

@[simp] theorem id_track : (q.track name r).id = q.id := rfl
@[simp] theorem handle_track : (q.track name r).handle = q.handle := rfl
@[simp] theorem id_drop : (q.drop name).id = q.id := rfl
@[simp] theorem handle_drop : (q.drop name).handle = q.handle := rfl

end BrowseRequest
end ServiceDiscovery
