import ServiceDiscovery.Proofs.Doubles
import ServiceDiscovery.Settings.Merge

/-!
Keys of mappings. To be the same key is an equivalence among the values that can be keys at all, so
look-ups go by what a key is told apart by, and what merging leaves under a key depends on both
sides at that key only.
-/
namespace ServiceDiscovery
namespace Value
open Number

inductive Key
  | text (s : String)
  | missing
  | stamp (plain shown : String)
  | whole (n : Int)
  | other (x : Float)

/-- A double that stands for a whole number is the same key as this; any other one is told apart by
itself. -/
def floatKey (x : Float) : Key :=
  match floatInt? x with
  | some n => .whole n
  | none => .other x

def key? : Value → Option Key
  | text s => some (.text s)
  | null => some .missing
  | stamp s p => some (.stamp s p)
  | bool b => some (.whole (if b then 1 else 0))
  | int n => some (.whole n)
  | float x => some (floatKey x)
  | list _ => none
  | map _ => none

section Same
variable {u v w : Value} {x y : Float}

theorem float_sameKey_iff : (float x).sameKey (float y) = true ↔ floatKey x = floatKey y := by
  rw [sameKey, Bool.or_eq_true, Bool.and_eq_true]
  constructor
  · rintro (hequal | ⟨hx, hy⟩)
    · cases hx : floatInt? x with
      | some n => simp [floatKey, ← floatInt?_congr hequal, hx]
      | none => rw [eq_of_float_beq hequal hx]
    · rw [eq_of_isNaN hx hy]
  · intro h
    rw [floatKey, floatKey] at h
    split at h
    · rename_i n hx
      split at h
      · rename_i m hy
        cases h
        exact .inl (float_beq_of_floatInt? hx hy)
      · cases h
    · split at h
      · cases h
      · cases h
        by_cases hnan : x.isNaN = true
        · exact .inr ⟨hnan, hnan⟩
        · exact .inl (float_beq_iff.mpr (.inl ⟨rfl, mt isNaN_iff.mpr hnan⟩))

theorem sameKey_iff : v.sameKey w = true ↔ ∃ c, v.key? = some c ∧ some c = w.key? := by
  cases v with
  | float x =>
    cases w with
    | float y => simp [float_sameKey_iff, key?]
    | _ => cases hx : floatInt? x <;> simp [sameKey, key?, keyNumber?, floatKey, hx]
  | _ =>
    cases w with
    | float y => cases hy : floatInt? y <;> simp [sameKey, key?, keyNumber?, floatKey, hy]
    | _ => simp [sameKey, key?, keyNumber?]

theorem sameKey_self_iff : v.sameKey v = true ↔ v.key?.isSome = true := by
  cases hv : v.key? <;> simp [sameKey_iff, hv]

theorem sameKey_symm (h : v.sameKey w = true) : w.sameKey v = true := by
  obtain ⟨c, hv, hw⟩ := sameKey_iff.mp h
  exact sameKey_iff.mpr ⟨c, hw.symm, hv.symm⟩

theorem sameKey_trans (h : u.sameKey v = true) (h' : v.sameKey w = true) : u.sameKey w = true := by
  obtain ⟨c, hu, hv⟩ := sameKey_iff.mp h
  obtain ⟨d, hv', hw⟩ := sameKey_iff.mp h'
  obtain rfl : c = d := Option.some.inj (hv.trans hv')
  exact sameKey_iff.mpr ⟨c, hu, hw⟩

theorem sameKey_congr (h : v.sameKey w = true) (u : Value) : u.sameKey v = u.sameKey w :=
  Bool.eq_iff_iff.mpr ⟨fun hv => sameKey_trans hv h, fun hw => sameKey_trans hw (sameKey_symm h)⟩

end Same
end Value

namespace Settings

section LookUp
variable {base o : List (Value × Value)} {k k' v w : Value}

theorem lookUp_cons :
    lookUp ((k, v) :: base) k' = if k.sameKey k' then some v else lookUp base k' := by
  rw [lookUp, List.find?_cons]
  split
  · rename_i hk
    simp only [hk, if_true, Option.map_some]
  · rename_i hk
    simp only [hk, Bool.false_eq_true, if_false]
    rfl

theorem lookUp_congr (h : k.sameKey k' = true) : lookUp base k = lookUp base k' := by
  simp only [lookUp, Value.sameKey_congr h]

theorem lookUp_put :
    lookUp (Value.put k w base) k' = if k.sameKey k' then some w else lookUp base k' := by
  induction base with
  | nil => rw [Value.put, lookUp_cons]
  | cons e es ih =>
    obtain ⟨j, v⟩ := e
    rw [Value.put]
    by_cases hj : j.sameKey k = true
    · have hsame : j.sameKey k' = k.sameKey k' := by
        rw [Bool.eq_iff_iff]
        exact ⟨Value.sameKey_trans (Value.sameKey_symm hj), Value.sameKey_trans hj⟩
      simp only [hj, if_true, lookUp_cons, hsame]
      split_ifs <;> rfl
    · simp only [hj, Bool.false_eq_true, if_false, lookUp_cons, ih]
      split_ifs with hk' hk
      · -- the entry in front has another key than what is put in
        exact absurd (Value.sameKey_trans hk' (Value.sameKey_symm hk)) hj
      · rfl
      · rfl
      · rfl

def KeysApart (es : List (Value × Value)) : Prop := es.Pairwise fun a b => a.1.sameKey b.1 = false

theorem lookUp_eq_none_of_apart (h : ∀ e ∈ base, k.sameKey e.1 = false) : lookUp base k = none := by
  rw [lookUp, Option.map_eq_none_iff, List.find?_eq_none]
  intro e he hsame
  cases (Value.sameKey_symm hsame).symm.trans (h e he)

/-- What a merged mapping has under a key: what the override makes of it, if there is one, else what
was there. -/
theorem lookUp_merge (h : KeysApart o) : lookUp (merge base o) k =
    ((lookUp o k).bind (mergeValue (lookUp base k))).or (lookUp base k) := by
  induction o generalizing base with
  | nil => rw [merge]; rfl
  | cons e rest ih =>
    obtain ⟨j, v⟩ := e
    obtain ⟨hapart, hrest⟩ := List.pairwise_cons.mp h
    rw [merge, lookUp_cons]
    by_cases hj : j.sameKey k = true
    · have hnone : lookUp rest k = none :=
        (lookUp_congr hj).symm.trans (lookUp_eq_none_of_apart hapart)
      rw [if_pos hj, Option.bind_some, lookUp_congr hj]
      cases hm : mergeValue (lookUp base k) v with
      | none => simp [ih hrest, hnone]
      | some w => simp [ih hrest, hnone, lookUp_put, hj]
    · rw [if_neg hj]
      cases mergeValue (lookUp base j) v with
      | none => exact ih hrest
      | some w =>
        have hkept : lookUp (Value.put j w base) k = lookUp base k := by rw [lookUp_put, if_neg hj]
        dsimp only
        rw [ih hrest, hkept]

end LookUp
end Settings
end ServiceDiscovery
