import Mathlib.Data.List.Induction
import ServiceDiscovery.Proofs.Searching

/-!
What a live browse tracks, by the reports on its handle: the instances of which the last event said
that they came. Whether anybody is told does not matter.
-/
namespace ServiceDiscovery

def Reply.came? (n : String) : Reply → Option Bool
  | .browse flags _ code name regtype _ =>
    if code ≠ ErrorCode.noError ∨ name ≠ n then none
    else if !announces flags then some false
    else if (regtype.bind RegType.transport?).isSome then some true
    else none
  | _ => none

def comings (n : String) (rs : List Reply) : List Bool := rs.filterMap (Reply.came? n)

section
variable {n name : String} {flags interfaceIndex code : Int} {regtype domain : Option String}

theorem comings_append (n : String) (a b : List Reply) :
    comings n (a ++ b) = comings n a ++ comings n b :=
  List.filterMap_append

theorem comings_cons (n : String) (r : Reply) (rs : List Reply) :
    comings n (r :: rs) = (r.came? n).toList ++ comings n rs := by
  cases h : r.came? n <;> simp [comings, h]

theorem getLast?_comings_concat (n : String) (rs : List Reply) (r : Reply) :
    (comings n (rs ++ [r])).getLast? = (r.came? n).or (comings n rs).getLast? := by
  rw [comings_append, comings_cons]
  cases r.came? n <;> simp [comings]

theorem Reply.came?_of_ne (h : name ≠ n) :
    (browse flags interfaceIndex code name regtype domain).came? n = none :=
  if_pos (.inr h)

theorem Reply.came?_of_error (h : code ≠ ErrorCode.noError) :
    (browse flags interfaceIndex code name regtype domain).came? n = none :=
  if_pos (.inl h)

theorem Reply.came?_self :
    (browse flags interfaceIndex ErrorCode.noError n regtype domain).came? n =
      if announces flags then (if (regtype.bind RegType.transport?).isSome then some true else none)
      else some false := by
  cases h : announces flags <;> simp [came?, h]

end

namespace Search
variable {uuid subtype n name : String} {found : List Finding} {flags interfaceIndex : Int}
  {regtype domain : Option String}

def has (found : List Finding) (n : String) : Bool := found.any (·.name == n)

theorem isSome_find? (found : List Finding) (n : String) :
    (found.find? (·.name == n)).isSome = has found n := by
  rw [Bool.eq_iff_iff, List.find?_isSome, has, List.any_eq_true]

theorem has_concat (found : List Finding) (f : Finding) (n : String) :
    has (found ++ [f]) n = (has found n || f.name == n) := by
  simp [has]

theorem has_drop (found : List Finding) (name n : String) :
    has (found.filter (·.name != name)) n = if name = n then false else has found n := by
  rw [has, List.any_filter, has]
  split
  · rename_i hname
    subst hname
    simp
  · rename_i hname
    congr 1
    funext f
    by_cases hf : f.name = n
    · simp [hf, Ne.symm hname]
    · simp [hf]

theorem has_heed_appeared (hn : n ≠ uuid) (hflags : Reply.announces flags = true)
    (found : List Finding) :
    has (heed uuid subtype found
        (.browse flags interfaceIndex ErrorCode.noError name regtype domain)).1 n =
      if name = n ∧ (regtype.bind RegType.transport?).isSome then true else has found n := by
  simp only [heed, ne_eq, not_true_eq_false, if_false, hflags, if_true]
  by_cases hself : name = uuid
  · have hother : name ≠ n := hself ▸ hn.symm
    simp only [hself, if_true]
    simp [← hself, hother]
  simp only [hself, if_false, isSome_find?]
  by_cases hknown : has found name = true
  · simp only [hknown, if_true]
    split
    · rename_i hname
      rw [← hname.1, hknown]
    · rfl
  simp only [hknown]
  cases regtype with
  | none => simp
  | some type =>
    cases ht : RegType.transport? type with
    | none => simp [ht]
    | some transport =>
      by_cases hname : name = n <;> simp [ht, has_concat, hname]

theorem has_heed_vanished (hflags : Reply.announces flags = false) (found : List Finding) :
    has (heed uuid subtype found
        (.browse flags interfaceIndex ErrorCode.noError name regtype domain)).1 n =
      if name = n then false else has found n := by
  simp only [heed, ne_eq, not_true_eq_false, if_false, hflags, Bool.false_eq_true]
  cases hfind : found.find? (·.name == name) with
  | none =>
    have hnone : has found name = false := by rw [← isSome_find?, hfind, Option.isSome_none]
    dsimp only
    split
    · rename_i hname
      rw [← hname, hnone]
    · rfl
  | some f => exact has_drop found name n

/-- What an event says of an instance is so afterwards, and an event that says nothing changes
nothing. A party never finds itself. -/
theorem has_heed (hn : n ≠ uuid) (found : List Finding) (r : Reply) :
    has (heed uuid subtype found r).1 n = (r.came? n).getD (has found n) := by
  cases r with
  | browse flags interfaceIndex code name regtype domain =>
    by_cases hcode : code = ErrorCode.noError
    · subst hcode
      by_cases hflags : Reply.announces flags = true
      · rw [has_heed_appeared hn hflags]
        by_cases hname : name = n
        · rw [hname, Reply.came?_self, if_pos hflags]
          by_cases hread : (regtype.bind RegType.transport?).isSome = true <;> simp [hread]
        · rw [Reply.came?_of_ne hname, if_neg fun h => hname h.1, Option.getD_none]
      · rw [has_heed_vanished (by simpa using hflags)]
        by_cases hname : name = n
        · rw [hname, Reply.came?_self, if_neg hflags, if_pos rfl, Option.getD_some]
        · rw [Reply.came?_of_ne hname, if_neg hname, Option.getD_none]
    · rw [Reply.came?_of_error hcode, Option.getD_none, heed, if_pos hcode]
  | resolve | register => rfl

/-- An instance is found if the last event about it said that it came. -/
theorem has_after (hn : n ≠ uuid) (rs : List Reply) :
    has (after uuid subtype rs).found n = (comings n rs).getLast?.getD false := by
  induction rs using List.reverseRecOn with
  | nil => rfl
  | append_singleton rs r ih =>
    rw [after_concat, has_heed hn, ih, getLast?_comings_concat]
    cases r.came? n <;> rfl

end Search

def BrowseRequest.tracks (q : BrowseRequest) (n : String) : Bool := (q.discovered.lookup n).isSome

theorem BrowseRequest.tracks_of_shown {q : BrowseRequest} {rs : Records} {found : List Finding}
    (h : List.Forall₂ (Shows rs) q.discovered found) (n : String) :
    q.tracks n = Search.has found n := by
  rw [tracks, ← Search.isSome_find?]
  obtain ⟨hlookup, hfind⟩ | ⟨_, _, hlookup, hfind, -⟩ :=
    shown_lookup h n <;> rw [hlookup, hfind] <;> rfl

/-- A live browse tracks the instances of which the last event on its handle said that they came. -/
theorem History.tracks_eq (k : History) (hsilent : SilentOnceClosed k.deeds) :
    ∀ q ∈ k.loop.session.registry.browses.values, ∀ n, n ≠ k.loop.session.uuid →
      q.tracks n = (comings n (reports q.handle k.deeds)).getLast?.getD false := by
  intro q hq n hn
  rw [BrowseRequest.tracks_of_shown (k.searches hsilent q hq).found, Search.has_after hn]

end ServiceDiscovery
