import ServiceDiscovery.Multicast.ServiceType
import ServiceDiscovery.RegType

/-!
Registration types on the network and back. All parties with the same transport and subtype name the
same service type, a full name gives the instance back, and the registration type of a reply names
the transport.
-/
namespace ServiceDiscovery

theorem Text.parts_append {sep : Char} {xs : List Char} (h : sep ∉ xs) (ys : List Char) :
    parts sep (xs ++ sep :: ys) = xs :: parts sep ys := by
  induction xs with
  | nil => simp [parts]
  | cons x xs ih =>
    have hx : x ≠ sep := fun hx => h (hx ▸ List.mem_cons_self)
    rw [List.cons_append, parts, if_neg hx, ih fun hxs => h (List.mem_cons_of_mem _ hxs)]

namespace Multicast
open ServiceDiscovery.Text

def stem (t : Transport) : String := RegType.service ++ "." ++ RegType.transportLabel t.code

def serviceType (t : Transport) (subtype : String) : ServiceType :=
  .ofParts (stem t) (if subtype = "" then [] else (parts ',' subtype.toList).map trimChars)

/-- What the type is made of but for the subtype. -/
theorem serviceType_eq (t : Transport) (subtype : String) :
    (serviceType t subtype).base = stem t ++ "." ++ localDomain ∧
      (serviceType t subtype).reply = stem t ++ "." := ⟨rfl, rfl⟩

theorem toList_make {subtype : String} (hs : subtype ≠ "") (t : Transport) :
    (RegType.make t.code subtype).toList = (stem t).toList ++ ',' :: subtype.toList := by
  simp [RegType.make, stem, hs]

/-- Announcing and browsing come to the same type, under whichever name the local domain is
meant. -/
theorem of?_make (t : Transport) (subtype : String) {domain : Option String}
    (hd : isLocalDomain (domain.getD "") = true) :
    ServiceType.of? (some (RegType.make t.code subtype)) domain = .ok (serviceType t subtype) := by
  have hstem : dropDots (trimChars (stem t).toList) = (stem t).toList ∧ ',' ∉ (stem t).toList ∧
      (stem t).toList.isEmpty = false := by
    cases t <;> decide +kernel
  obtain ⟨htrim, hcomma, hne⟩ := hstem
  unfold ServiceType.of?
  simp only [hd, Bool.not_true, Bool.false_eq_true, if_false, Option.getD_some]
  by_cases hs : subtype = ""
  · subst hs
    cases t <;> rfl
  · simp only [toList_make hs, parts_append hcomma, List.map_cons, htrim, hne,
      Bool.false_eq_true, if_false, serviceType, hs, String.ofList_toList]

theorem eq_of_of?_make {t : Transport} {subtype : String} {domain : Option String}
    {type : ServiceType}
    (h : ServiceType.of? (some (RegType.make t.code subtype)) domain = .ok type) :
    type = serviceType t subtype := by
  by_cases hd : isLocalDomain (domain.getD "") = true
  · rw [of?_make t subtype hd] at h
    exact (Except.ok.inj h).symm
  · simp [ServiceType.of?, hd] at h

theorem of?_reply (t : Transport) (subtype : String) :
    ∃ type, ServiceType.of? (some (serviceType t subtype).reply) (some localDomain) = .ok type ∧
      type.base = (serviceType t subtype).base := by
  rw [(serviceType_eq t subtype).1, (serviceType_eq t subtype).2]
  cases t
  · exact ⟨_, rfl, rfl⟩
  · exact ⟨_, rfl, rfl⟩

theorem transport?_reply (t : Transport) (subtype : String) :
    RegType.transport? (serviceType t subtype).reply = some t := by
  rw [(serviceType_eq t subtype).2]
  cases t <;> decide +kernel

/-- A full name of the type gives the instance back, dots and all. -/
theorem instanceName_append (name base : String) :
    instanceName (name ++ "." ++ base) base = name := by
  have hsuffix : ('.' :: base.toList).isSuffixOf (name ++ "." ++ base).toList = true := by
    rw [List.isSuffixOf_iff_suffix]
    exact ⟨name.toList, by simp⟩
  rw [instanceName]
  simp only [hsuffix, if_true]
  simp

end Multicast
end ServiceDiscovery
