import ServiceDiscovery.Proofs.ServiceTypes

/-!
Which services share a type on the network: those with the same transport and the same subtype in
effect, however the subtype is written. Subtypes are read between commas, and blanks around them do
not count.
-/
namespace ServiceDiscovery

theorem Text.parts_eq_splitOn (sep : Char) (cs : List Char) : parts sep cs = cs.splitOn sep := by
  induction cs with
  | nil => rfl
  | cons c cs ih =>
    have hne := parts_ne_nil sep cs
    rw [List.splitOn, List.splitOnP_cons_eq_if_modifyHead, ← List.splitOn, ← ih, parts]
    by_cases hc : c = sep
    · simp [hc]
    · cases hparts : parts sep cs with
      | nil => exact absurd hparts hne
      | cons p ps => simp [hc]

namespace Multicast
open ServiceDiscovery.Text

/-- The subtype in effect: the first part of a text between commas that is not blank, trimmed. -/
def namedSubtype (subtype : String) : Option (List Char) :=
  ((subtype.toList.splitOn ',').map trimChars).find? (· ≠ [])

def subtypeLabels : Option (List Char) → List Char
  | some subtype => subtype ++ "._sub.".toList
  | none => []

theorem subtypeLabels_injective {x y : Option (List Char)} (h : subtypeLabels x = subtypeLabels y) :
    x = y := by
  cases x with
  | none =>
    cases y with
    | none => rfl
    | some y => simp [subtypeLabels] at h
  | some x =>
    cases y with
    | none => simp [subtypeLabels] at h
    | some y => exact congrArg some (List.append_cancel_right h)

theorem namedSubtype_eq (subtype : String) : namedSubtype subtype =
    (if subtype = "" then [] else (parts ',' subtype.toList).map trimChars).find? fun p =>
      !p.isEmpty := by
  have hsame : (fun p : List Char => !p.isEmpty) = fun p => decide (p ≠ []) := by
    funext p
    cases p <;> rfl
  by_cases hs : subtype = ""
  · subst hs
    rfl
  · rw [namedSubtype, if_neg hs, parts_eq_splitOn, hsame]

theorem toList_full (t : Transport) (subtype : String) : (serviceType t subtype).full.toList =
    subtypeLabels (namedSubtype subtype) ++ (serviceType t subtype).base.toList := by
  rw [namedSubtype_eq, serviceType, ServiceType.ofParts]
  cases List.find? (fun p : List Char => !p.isEmpty) _ with
  | none => rfl
  | some p => simp [subtypeLabels]

theorem base_eq_iff (p q : Transport) (s t : String) :
    (serviceType p s).base = (serviceType q t).base ↔ p = q := by
  rw [(serviceType_eq p s).1, (serviceType_eq q t).1]
  cases p <;> cases q <;> decide +kernel

/-- The bases of both transports are equally long, so a type falls apart in one way only. -/
theorem length_base (p q : Transport) (s t : String) :
    (serviceType p s).base.toList.length = (serviceType q t).base.toList.length := by
  rw [(serviceType_eq p s).1, (serviceType_eq q t).1]
  cases p <;> cases q <;> decide +kernel

theorem full_eq_iff (p q : Transport) (s t : String) :
    (serviceType p s).full = (serviceType q t).full ↔ p = q ∧ namedSubtype s = namedSubtype t := by
  rw [← String.toList_inj, toList_full, toList_full]
  constructor
  · intro h
    obtain ⟨hlabels, hbase⟩ := List.append_inj' h (length_base p q s t)
    exact ⟨(base_eq_iff p q s t).mp (String.toList_inj.mp hbase), subtypeLabels_injective hlabels⟩
  · rintro ⟨rfl, hnamed⟩
    rw [hnamed, (serviceType_eq p s).1, (serviceType_eq p t).1]

/-- The type of what a reply reports names no subtype. -/
theorem of?_reply_eq (t : Transport) (subtype : String) :
    ServiceType.of? (some (serviceType t subtype).reply) (some localDomain) =
      .ok ⟨(serviceType t subtype).base, (serviceType t subtype).base,
        (serviceType t subtype).reply⟩ := by
  rw [(serviceType_eq t subtype).1, (serviceType_eq t subtype).2]
  cases t <;> rfl

def Served (domain : Option String) : Prop :=
  ∃ regtype type, ServiceType.of? regtype domain = .ok type

theorem isLocalDomain_of_served {domain : Option String} (h : Served domain) :
    isLocalDomain (domain.getD "") = true := by
  obtain ⟨regtype, type, htype⟩ := h
  by_cases hd : isLocalDomain (domain.getD "") = true
  · exact hd
  · simp [ServiceType.of?, hd] at htype

/-- Types of registrations are the same just if the transports and the subtypes in effect are; their
bases, just if the transports are. What replies report is again taken in the local domain, and
stands for the base alone. -/
theorem types_separate (p q : Transport) (s t : String) {d e : Option String} (hd : Served d)
    (he : Served e) :
    ∃ P Q, ServiceType.of? (some (RegType.make p.code s)) d = .ok P ∧
      ServiceType.of? (some (RegType.make q.code t)) e = .ok Q ∧
      (P.full = Q.full ↔ p = q ∧ namedSubtype s = namedSubtype t) ∧
      (P.base = Q.base ↔ p = q) ∧
      ServiceType.of? (some P.reply) (some "local.") = .ok ⟨P.base, P.base, P.reply⟩ :=
  ⟨serviceType p s, serviceType q t, of?_make p s (isLocalDomain_of_served hd),
    of?_make q t (isLocalDomain_of_served he), full_eq_iff p q s t, base_eq_iff p q s t,
      of?_reply_eq p s⟩

/-- Two spellings of one subtype, and another subtype that holds the base of a type. -/
theorem types_separate_respelled : ∃ P Q R,
    ServiceType.of? (some "_ndn._tcp, , Mesh ,x") (some " LOCAL.. ") = .ok P ∧
    ServiceType.of? (some "_ndn._tcp,Mesh") none = .ok Q ∧
    ServiceType.of? (some "_ndn._tcp,Mesh._sub._ndn._tcp.local.") none = .ok R ∧
    P.full = Q.full ∧ Q.full ≠ R.full ∧ Q.base = R.base := by
  have hlocal : Served (some " LOCAL.. ") := ⟨_, _, of?_make .udp "" (by decide +kernel)⟩
  have hnone : Served none := ⟨_, _, of?_make .udp "" (by decide +kernel)⟩
  obtain ⟨P, Q, hP, hQ, hsame, -, -⟩ := types_separate .tcp .tcp " , Mesh ,x" "Mesh" hlocal hnone
  obtain ⟨Q', R, hQ', hR, hother, hbase, -⟩ :=
    types_separate .tcp .tcp "Mesh" "Mesh._sub._ndn._tcp.local." hnone hnone
  obtain rfl : Q = Q' := Except.ok.inj (hQ.symm.trans hQ')
  refine ⟨P, Q, R, hP, hQ, hR, hsame.mpr ⟨rfl, by decide +kernel⟩, fun h => ?_, hbase.mpr rfl⟩
  exact absurd (hother.mp h).2 (by decide +kernel)

end Multicast
end ServiceDiscovery
