import Mathlib.Data.List.Basic
import ServiceDiscovery.Session.Basic

/-!
Sightings of instances, in the order in which a browse announces them. Each name comes and goes in
turn, and what is there now are the names that came last, in the order in which they came.
-/
namespace ServiceDiscovery

inductive Sighting
  | added (r : RecordId)
  | removed (r : RecordId)
  deriving DecidableEq, Repr

def Notification.sighting? : Notification → Option Sighting
  | .added _ r => some (.added r)
  | .removed _ r => some (.removed r)
  | _ => none

namespace Sighting

def record : Sighting → RecordId
  | added r => r
  | removed r => r

def added? : Sighting → Option RecordId
  | added r => some r
  | removed _ => none

inductive Alternate : List Sighting → Prop
  | nil : Alternate []
  | added (r : RecordId) : Alternate [.added r]
  | removed (r : RecordId) {later : List Sighting} (h : Alternate later) :
      Alternate (.added r :: .removed r :: later)

variable (name : RecordId → String)

def named (n : String) (ss : List Sighting) : List Sighting := ss.filter (name ·.record == n)

def present : List Sighting → List (String × RecordId)
  | [] => []
  | .added r :: later =>
    if named name (name r) later = [] then (name r, r) :: present later else present later
  | .removed _ :: later => present later

variable {name} {ss : List Sighting} {r : RecordId}

theorem named_append (n : String) (a b : List Sighting) :
    named name n (a ++ b) = named name n a ++ named name n b :=
  List.filter_append ..

theorem named_cons (n : String) (s : Sighting) (ss : List Sighting) :
    named name n (s :: ss) = if name s.record = n then s :: named name n ss
    else named name n ss := by
  simp [named, List.filter_cons]

theorem named_congr {name' : RecordId → String} (h : ∀ s ∈ ss, name' s.record = name s.record)
    (n : String) : named name' n ss = named name n ss :=
  List.filter_congr fun s hs => by rw [h s hs]

theorem Alternate.append_added (h : Alternate ss) (hlast : ss.getLast?.bind added? = none)
    (r : RecordId) : Alternate (ss ++ [.added r]) := by
  induction h with
  | nil => exact .added r
  | added r' => cases hlast
  | @removed r' later h ih =>
    refine .removed r' (ih ?_)
    cases later with
    | nil => rfl
    | cons s later => simpa using hlast

theorem Alternate.append_removed (h : Alternate ss) (hlast : ss.getLast?.bind added? = some r) :
    Alternate (ss ++ [.removed r]) := by
  induction h with
  | nil => cases hlast
  | added r' =>
    obtain rfl : r' = r := Option.some.inj hlast
    exact .removed r' .nil
  | @removed r' later h ih =>
    refine .removed r' (ih ?_)
    cases later with
    | nil => cases hlast
    | cons s later => simpa using hlast

theorem present_append (ss : List Sighting) (s : Sighting) : present name (ss ++ [s]) =
    (present name ss).filter (·.1 != name s.record) ++ s.added?.toList.map fun r =>
      (name r, r) := by
  induction ss with
  | nil => cases s <;> rfl
  | cons first later ih =>
    cases first with
    | removed r => exact ih
    | added r =>
      have hlater : named name (name r) (later ++ [s]) = [] ↔
          named name (name r) later = [] ∧ name s.record ≠ name r := by
        simp [named]
      rw [List.cons_append, present, present, ih]
      by_cases hnone : named name (name r) later = []
      · by_cases hs : name s.record = name r
        · simp [hlater, hnone, hs]
        · simp [hlater, hnone, hs, Ne.symm hs]
      · simp [hlater, hnone]

/-- A name is there with a record if it came last, as this record. -/
theorem lookup_present (ss : List Sighting) (n : String) :
    (present name ss).lookup n = (named name n ss).getLast?.bind added? := by
  induction ss with
  | nil => rfl
  | cons first later ih =>
    rw [named_cons]
    cases first with
    | removed r =>
      rw [present, ih]
      split
      · cases named name n later <;> rfl
      · rfl
    | added r =>
      rw [present]
      by_cases hn : name r = n
      · subst hn
        cases hnamed : named name (name r) later with
        | nil => simp [record, added?]
        | cons s rest => simp [hnamed, ih, record]
      · have hne : (n == name r) = false := by simpa using Ne.symm hn
        split <;> simp [hne, hn, ih, record, List.lookup_cons]

def Stands (r : RecordId) (ss : List Sighting) : Prop :=
  ∃ before after, ss = before ++ .added r :: after ∧ .removed r ∉ after

theorem Stands.mem (h : Stands r ss) : .added r ∈ ss := by
  obtain ⟨before, after, rfl, -⟩ := h
  exact List.mem_append_right before List.mem_cons_self

theorem Alternate.after_added {before after : List Sighting}
    (h : Alternate (before ++ .added r :: after)) :
    after = [] ∨ ∃ later, after = .removed r :: later := by
  generalize hss : before ++ .added r :: after = ss at h
  induction h generalizing before with
  | nil => simp at hss
  | added r' =>
    obtain _ | ⟨first, before⟩ := before
    · simp_all
    · simp at hss
  | @removed r' later h ih =>
    obtain _ | ⟨first, _ | ⟨second, before⟩⟩ := before
    · obtain ⟨heq, rfl⟩ := List.cons.inj hss
      obtain rfl := Sighting.added.inj heq
      exact .inr ⟨later, rfl⟩
    · simp at hss
    · simp only [List.cons_append, List.cons.injEq] at hss
      exact ih hss.2.2

/-- Where names alternate, a record stands if it is what is there under its name. -/
theorem stands_iff_lookup (h : Alternate (named name (name r) ss)) :
    Stands r ss ↔ (present name ss).lookup (name r) = some r := by
  rw [lookup_present]
  constructor
  · rintro ⟨before, after, rfl, hgone⟩
    rw [named_append, named_cons, record, if_pos rfl] at h ⊢
    obtain hnone | ⟨later, hlater⟩ := h.after_added
    · simp [hnone, added?]
    · have hmem : .removed r ∈ named name (name r) after := hlater ▸ List.mem_cons_self
      exact absurd (List.mem_of_mem_filter hmem) hgone
  · intro hlast
    obtain ⟨s, hlast, hs⟩ := Option.bind_eq_some_iff.mp hlast
    obtain ⟨earlier, hsplit⟩ := List.getLast?_eq_some_iff.mp hlast
    cases s with
    | removed => cases hs
    | added r' =>
      obtain rfl := Option.some.inj hs
      obtain ⟨before, rest, rfl, -, hrest⟩ := List.filter_eq_append_iff.mp hsplit
      obtain ⟨skipped, after, rfl, -, -, hafter⟩ := List.filter_eq_cons_iff.mp hrest
      refine ⟨before ++ skipped, after, (List.append_assoc ..).symm, fun hgone => ?_⟩
      have hother := List.filter_eq_nil_iff.mp hafter _ hgone
      exact hother (beq_self_eq_true _)

theorem mem_present {n : String} (hmem : (n, r) ∈ present name ss) :
    name r = n ∧ .added r ∈ ss := by
  induction ss with
  | nil => cases hmem
  | cons first later ih =>
    have hlater (hmem : (n, r) ∈ present name later) : name r = n ∧ .added r ∈ first :: later :=
      (ih hmem).imp_right (List.mem_cons_of_mem first)
    cases first with
    | removed r' => exact hlater hmem
    | added r' =>
      rw [present] at hmem
      split at hmem
      · obtain heq | hmem := List.mem_cons.mp hmem
        · obtain ⟨rfl, rfl⟩ := Prod.mk.inj heq
          exact ⟨rfl, List.mem_cons_self⟩
        · exact hlater hmem
      · exact hlater hmem

theorem present_congr {name' : RecordId → String} (h : ∀ s ∈ ss, name' s.record = name s.record) :
    present name' ss = present name ss := by
  induction ss with
  | nil => rfl
  | cons first later ih =>
    obtain ⟨hfirst, hlater⟩ := List.forall_mem_cons.mp h
    cases first with
    | removed r => exact ih hlater
    | added r =>
      have hname : name' r = name r := hfirst
      rw [present, present, hname, named_congr hlater, ih hlater]

end Sighting
end ServiceDiscovery
