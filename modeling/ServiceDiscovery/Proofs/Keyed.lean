import Mathlib.Data.List.Nodup
import Mathlib.Data.List.Perm.Basic

/-!
Lists of pairs with distinct numeric keys: what is found under a key and what is left without it.
-/
namespace ServiceDiscovery.Keyed
variable {β : Type}

theorem key_eq_of_mem {l : List (Int × β)} (h : (l.map (·.1)).Nodup) {e e' : Int × β}
    (he : e ∈ l) (he' : e' ∈ l) (hk : e.1 = e'.1) : e = e' :=
  List.inj_on_of_nodup_map h he he' hk

theorem lookup_eq_some_iff {l : List (Int × β)} (h : (l.map (·.1)).Nodup) {k : Int} {b : β} :
    l.lookup k = some b ↔ (k, b) ∈ l := by
  induction l with
  | nil => simp
  | cons e es ih =>
    obtain ⟨i, c⟩ := e
    obtain ⟨hne, hes⟩ := List.nodup_cons.mp h
    by_cases hk : k = i
    · subst hk
      have hout : (k, b) ∉ es := fun hb => hne (List.mem_map_of_mem (f := (·.1)) hb)
      simp [hout, eq_comm]
    · have hki : (k == i) = false := by simpa using hk
      simp [List.lookup_cons, hki, hk, ih hes]

theorem lookup_isSome_iff {l : List (Int × β)} {k : Int} :
    (l.lookup k).isSome ↔ k ∈ l.map (·.1) := by
  simp [List.lookup_isSome_iff]

theorem nodup_filter {l : List (Int × β)} (h : (l.map (·.1)).Nodup) (p : Int × β → Bool) :
    ((l.filter p).map (·.1)).Nodup :=
  (List.filter_sublist.map _).nodup h

theorem perm_cons_filter {l : List (Int × β)} (h : (l.map (·.1)).Nodup) {k : Int} {b : β}
    (hb : (k, b) ∈ l) : l.Perm ((k, b) :: l.filter (·.1 != k)) := by
  induction l with
  | nil => cases hb
  | cons e es ih =>
    obtain ⟨hne, hes⟩ := List.nodup_cons.mp h
    have hout : ∀ e' ∈ es, e'.1 ≠ e.1 := fun e' he' hk => hne (List.mem_map.mpr ⟨e', he', hk⟩)
    obtain rfl | hmem := List.mem_cons.mp hb
    · have hall : es.filter (·.1 != k) = es := by
        rw [List.filter_eq_self]
        exact fun e' he' => by simpa using hout e' he'
      simp [hall]
    · have hek : e.1 ≠ k := fun hk => hout _ hmem hk.symm
      have hkeep : (e :: es).filter (·.1 != k) = e :: es.filter (·.1 != k) := by simp [hek]
      rw [hkeep]
      exact ((ih hes hmem).cons e).trans (List.Perm.swap _ _ _)

end ServiceDiscovery.Keyed
