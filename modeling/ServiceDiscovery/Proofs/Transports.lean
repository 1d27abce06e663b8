import ServiceDiscovery.Proofs.ServiceTypes
import ServiceDiscovery.Proofs.Trimming

/-!
The transport read off a registration type. It is looked for among all labels, those of the subtype
included, so a subtype can name UDP as well, and then it wins over TCP.
-/
namespace ServiceDiscovery

namespace Text

def udpCodes : List Nat := [0x5f, 0x75, 0x64, 0x70, 0x2e, 0x2c]

theorem udpCodes_ascii : ∀ n ∈ udpCodes, 0 < n ∧ n < 0x80 := by decide

theorem capitals_avoid_udpCodes :
    ∀ r ∈ capitals, r.last < 0x80 ∨ ∀ n ∈ udpCodes, r.avoids (n, n) = true := by
  decide +kernel

/-- Beyond ASCII no character gives one of them in lower case. -/
theorem toNat_lowerChar_not_mem {c : Char} (h : ¬c.toNat < 0x80) :
    (lowerChar c).toNat ∉ udpCodes := by
  rw [lowerChar, if_neg h]
  split
  · rename_i r hr
    have hcovers := List.find?_some hr
    simp only [CaseRun.covers, Bool.and_eq_true, decide_eq_true_eq] at hcovers
    intro hmem
    have havoids := (capitals_avoid_udpCodes r (List.mem_of_find?_eq_some hr)).resolve_left
      (by omega) _ hmem
    have hpos := (udpCodes_ascii _ hmem).1
    simp only [CaseRun.avoids, Bool.or_eq_true, decide_eq_true_eq] at havoids
    obtain hn | hn := toNat_ofNat_or ((c.toNat : Int) + r.shift).toNat <;> omega
  · exact fun hmem => h (udpCodes_ascii _ hmem).2

theorem toLower_of_not_ascii {c : Char} (h : ¬c.toNat < 0x80) : c.toLower = c := by
  rw [Char.toLower, dif_neg]
  intro hupper
  have : c.toNat ≤ 90 := hupper.2
  omega

theorem toLower_separator :
    ∀ n < 128, ((Char.ofNat n).toLower = '.' ∨ (Char.ofNat n).toLower = ',') →
    Char.ofNat n = '.' ∨ Char.ofNat n = ',' := by decide +kernel

theorem lowerFrom_ascii {c : Char} (h : c.toNat < 0x80) (before rest : List Char) :
    lowerFrom before (c :: rest) = c.toLower :: lowerFrom (c :: before) rest := by
  have hsigma : c.toNat ≠ 0x3a3 := by omega
  have hdotted : c.toNat ≠ 0x130 := by omega
  simp [lowerFrom, hsigma, hdotted, lowerChar, h]

theorem lowerFrom_append {xs : List Char} (h : ∀ c ∈ xs, c.toNat < 0x80) (before ys : List Char) :
    lowerFrom before (xs ++ ys) = xs.map Char.toLower ++ lowerFrom (xs.reverse ++ before) ys := by
  induction xs generalizing before with
  | nil => rfl
  | cons c xs ih =>
    rw [List.cons_append, lowerFrom_ascii (h c List.mem_cons_self),
      ih fun d hd => h d (List.mem_cons_of_mem _ hd)]
    simp

/-- Beyond ASCII a character gives others in lower case that matter as little as itself. -/
theorem exists_lowerFrom_of_not_ascii {c : Char} (h : ¬c.toNat < 0x80) (before rest : List Char) :
    ∃ d ds, lowerFrom before (c :: rest) = d :: ds ++ lowerFrom (c :: before) rest ∧
      ∀ e ∈ d :: ds, e.toNat ∉ udpCodes := by
  by_cases hsigma : c.toNat = 0x3a3
  · refine ⟨_, [], by simp only [lowerFrom, if_pos hsigma]; rfl, fun e he => ?_⟩
    obtain rfl := List.mem_singleton.mp he
    split <;> decide
  by_cases hdotted : c.toNat = 0x130
  · refine ⟨'i', [Char.ofNat 0x307], by simp only [lowerFrom, if_neg hsigma, if_pos hdotted], ?_⟩
    simp [udpCodes]
  · refine ⟨lowerChar c, [], by simp only [lowerFrom, if_neg hsigma,
      if_neg hdotted], fun e he => ?_⟩
    obtain rfl := List.mem_singleton.mp he
    exact toNat_lowerChar_not_mem h

def separated (cs : List Char) : List (List Char) :=
  parts '.' (cs.map fun c => if c = ',' then '.' else c)

theorem separated_cons {c : Char} (h : c = '.' ∨ c = ',') (cs : List Char) :
    separated (c :: cs) = [] :: separated cs := by
  obtain rfl | rfl := h <;> rfl

/-- What holds no separator goes in front of the first part. -/
theorem exists_separated_append {xs : List Char} (h : ∀ c ∈ xs, c ≠ '.' ∧ c ≠ ',')
    (cs : List Char) :
    ∃ p ps, separated cs = p :: ps ∧ separated (xs ++ cs) = (xs ++ p) :: ps := by
  obtain ⟨p, ps, hcs⟩ :=
    List.exists_cons_of_ne_nil (parts_ne_nil '.' (cs.map fun c => if c = ',' then '.' else c))
  refine ⟨p, ps, hcs, ?_⟩
  induction xs with
  | nil => exact hcs
  | cons x xs ih =>
    obtain ⟨hdot, hcomma⟩ := h x List.mem_cons_self
    have hrest : separated (xs ++ cs) = (xs ++ p) :: ps :=
      ih fun c hc => h c (List.mem_cons_of_mem _ hc)
    rw [separated] at hrest
    rw [separated, List.cons_append, List.map_cons, if_neg hcomma, parts, if_neg hdot, hrest,
      List.cons_append]

def SameUdp (p q : List Char) : Prop :=
  ∀ w : List Char, (∀ c ∈ w, c.toNat ∈ udpCodes) → (q = w ↔ p.map Char.toLower = w)

namespace SameUdp
variable {p q : List Char}

theorem nil : SameUdp [] [] := fun _ _ => Iff.rfl

theorem cons (h : SameUdp p q) (c : Char) : SameUdp (c :: p) (c.toLower :: q) := by
  intro w hw
  cases w with
  | nil => simp
  | cons x w =>
    rw [List.map_cons, List.cons.injEq, List.cons.injEq,
      h w fun d hd => hw d (List.mem_cons_of_mem _ hd)]

theorem of_not_mem {c d : Char} (hc : c.toLower.toNat ∉ udpCodes) (hd : d.toNat ∉ udpCodes) :
    SameUdp (c :: p) (d :: q) := by
  intro w hw
  constructor
  · rintro rfl
    exact absurd (hw d List.mem_cons_self) hd
  · rintro rfl
    exact absurd (hw _ List.mem_cons_self) hc

end SameUdp

/-- What a character that separates nothing gives in lower case separates nothing, and keeps texts
the same. -/
theorem exists_lowerFrom_same {c : Char} (hdot : c ≠ '.') (hcomma : c ≠ ',')
    (before rest : List Char) : ∃ low,
    lowerFrom before (c :: rest) = low ++ lowerFrom (c :: before) rest ∧
    (∀ e ∈ low, e ≠ '.' ∧ e ≠ ',') ∧
      ∀ p q, SameUdp p q → SameUdp (c :: p) (low ++ q) := by
  by_cases hascii : c.toNat < 0x80
  · refine ⟨[c.toLower], lowerFrom_ascii hascii before rest, fun e he => ?_, fun p q h => h.cons c⟩
    obtain rfl := List.mem_singleton.mp he
    have hseparator := toLower_separator c.toNat hascii
    rw [Char.ofNat_toNat] at hseparator
    exact ⟨fun h => (hseparator (.inl h)).elim hdot hcomma,
      fun h => (hseparator (.inr h)).elim hdot hcomma⟩
  · obtain ⟨d, ds, heq, hother⟩ := exists_lowerFrom_of_not_ascii hascii before rest
    refine ⟨d :: ds, heq, fun e he => ?_, fun p q _ => ?_⟩
    · constructor <;> rintro rfl <;> exact hother _ he (by decide)
    · refine .of_not_mem ?_ (hother d List.mem_cons_self)
      rw [toLower_of_not_ascii hascii]
      exact fun hmem => hascii (udpCodes_ascii _ hmem).2

/-- Lower case leaves the parts of a text apart, and the label of UDP where it was. -/
theorem separated_lowerFrom (before cs : List Char) :
    List.Forall₂ SameUdp (separated cs) (separated (lowerFrom before cs)) := by
  induction cs generalizing before with
  | nil => exact .cons .nil .nil
  | cons c rest ih =>
    by_cases hseparator : c = '.' ∨ c = ','
    · have hlow : lowerFrom before (c :: rest) = c :: lowerFrom (c :: before) rest := by
        obtain rfl | rfl := hseparator <;> rfl
      rw [hlow, separated_cons hseparator, separated_cons hseparator]
      exact .cons .nil (ih _)
    · obtain ⟨hdot, hcomma⟩ := not_or.mp hseparator
      obtain ⟨low, hlow, hapart, hsame⟩ := exists_lowerFrom_same hdot hcomma before rest
      have hplain : ∀ e ∈ [c], e ≠ '.' ∧ e ≠ ',' := by simp [hdot, hcomma]
      obtain ⟨p, ps, hp, hcp⟩ := exists_separated_append hplain rest
      obtain ⟨q, qs, hq, hlq⟩ := exists_separated_append hapart (lowerFrom (c :: before) rest)
      have hih := ih (c :: before)
      rw [hp, hq] at hih
      obtain ⟨hhead, htail⟩ := List.forall₂_cons.mp hih
      rw [hlow, hlq, ← List.singleton_append, hcp]
      exact .cons (hsame p q hhead) htail

theorem mem_separated_lowerFrom {w : List Char} (hw : ∀ c ∈ w, c.toNat ∈ udpCodes)
    (before cs : List Char) :
    w ∈ separated (lowerFrom before cs) ↔ ∃ p ∈ separated cs, p.map Char.toLower = w := by
  have hsame := separated_lowerFrom before cs
  generalize separated (lowerFrom before cs) = qs at hsame ⊢
  generalize separated cs = ps at hsame ⊢
  induction hsame with
  | nil => simp
  | cons h _ ih => simp only [List.mem_cons, ih, exists_eq_or_imp, ← h w hw, eq_comm (a := w)]

end Text

namespace RegType
open ServiceDiscovery.Text

/-- One of the parts of a subtype between dots and commas is the label of UDP, in whatever case. -/
def NamesUdp (subtype : String) : Prop :=
  ∃ p ∈ separated subtype.toList, p.map Char.toLower = "_udp".toList

instance (subtype : String) : Decidable (NamesUdp subtype) :=
  inferInstanceAs (Decidable (∃ p ∈ separated subtype.toList, p.map Char.toLower = "_udp".toList))

theorem toList_make_append (t : Transport) (subtype : String) :
    ∃ sep : Char, (sep = '.' ∨ sep = ',') ∧
    (make t.code subtype).toList = (Multicast.stem t).toList ++ sep :: subtype.toList := by
  by_cases hs : subtype = ""
  · exact ⟨'.', .inl rfl, by cases t <;> subst hs <;> rfl⟩
  · exact ⟨',', .inr rfl, Multicast.toList_make hs t⟩

theorem labels_make (t : Transport) (subtype : String) : ∃ before, labels (make t.code subtype) =
    service :: transportLabel t.code :: (separated (lowerFrom before subtype.toList)).map
      String.ofList := by
  obtain ⟨sep, hsep, hmake⟩ := toList_make_append t subtype
  have hascii : ∀ c ∈ (Multicast.stem t).toList, c.toNat < 0x80 := by
    cases t <;> simp [Multicast.stem, service, transportLabel, Transport.code]
  have hlow : (Multicast.stem t).toList.map Char.toLower = (Multicast.stem t).toList := by
    cases t <;> decide +kernel
  have hstem (cs : List Char) : separated ((Multicast.stem t).toList ++ sep :: cs) =
      service.toList :: (transportLabel t.code).toList :: separated cs := by
    obtain rfl | rfl := hsep <;> cases t <;> rfl
  have hsepLow (before cs : List Char) :
      lowerFrom before (sep :: cs) = sep :: lowerFrom (sep :: before) cs := by
    obtain rfl | rfl := hsep <;> rfl
  have hlabels : labels (make t.code subtype) =
      (separated (lowerFrom [] (make t.code subtype).toList)).map String.ofList := by
    rw [labels, lower, String.toList_ofList, separated]
  rw [hlabels, hmake, lowerFrom_append hascii, hlow, hsepLow, hstem]
  exact ⟨_, by simp only [List.map_cons, String.ofList_toList]; rfl⟩

/-- What is read off a registration type is the transport it was made for, unless its subtype names
UDP. -/
theorem transport_of_make (t : Transport) (subtype : String) :
    transport? (make t.code subtype) = some (if NamesUdp subtype then .udp else t) := by
  obtain ⟨before, hlabels⟩ := labels_make t subtype
  have hnames : "_udp" ∈ (separated (lowerFrom before subtype.toList)).map String.ofList ↔
      NamesUdp subtype := by
    rw [NamesUdp, ← mem_separated_lowerFrom (by simp [udpCodes]) before subtype.toList,
      List.mem_map]
    constructor
    · rintro ⟨w, hw, h⟩
      rwa [← h, String.toList_ofList]
    · exact fun hw => ⟨_, hw, String.ofList_toList⟩
  have hudp : (labels (make t.code subtype)).contains "_udp" = true ↔ t = .udp ∨
      NamesUdp subtype := by
    rw [hlabels, List.contains_iff_mem, List.mem_cons, List.mem_cons, hnames]
    cases t <;> simp [service, transportLabel, Transport.code]
  by_cases h : t = .udp ∨ NamesUdp subtype
  · rw [transport?, if_pos (hudp.mpr h)]
    obtain rfl | hnamed := h
    · simp
    · rw [if_pos hnamed]
  · obtain ⟨ht, hnamed⟩ := not_or.mp h
    obtain rfl : t = .tcp := by cases t <;> simp_all
    have htcp : (labels (make Transport.tcp.code subtype)).contains "_tcp" = true := by
      rw [hlabels, List.contains_iff_mem]
      exact List.mem_cons_of_mem _ List.mem_cons_self
    rw [transport?, if_neg (mt hudp.mp h), if_pos htcp, if_neg hnamed]

/-- A subtype that is called like the label of UDP hides that the service is one over TCP. -/
theorem not_transport_of_make_always :
    ¬∀ (t : Transport) (subtype : String), transport? (make t.code subtype) = some t := by
  intro h
  have hudp : transport? (make Transport.tcp.code "_udp") = some .udp := by decide +kernel
  cases hudp.symm.trans (h .tcp "_udp")

end RegType
end ServiceDiscovery
