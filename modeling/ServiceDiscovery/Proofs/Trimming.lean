import Mathlib
import ServiceDiscovery.Text.Blank
import ServiceDiscovery.Text.Lowercase

/-!
Trimmed texts. Trimming gives a text without blanks at its ends and leaves such a text as it is, and
lower case keeps it so: no character becomes blank by it.
-/
namespace ServiceDiscovery.Text

def Trimmed (cs : List Char) : Prop :=
  (∀ c ∈ cs.head?, isBlank c = false) ∧ ∀ c ∈ cs.getLast?, isBlank c = false

theorem dropEndWhile_eq_rdropWhile {α : Type} (p : α → Bool) (xs : List α) :
    dropEndWhile p xs = xs.rdropWhile p := rfl

theorem trimmed_trimChars (cs : List Char) : Trimmed (trimChars cs) := by
  constructor
  · intro c hc
    have hfirst : (cs.dropWhile isBlank).head? = some c := by
      obtain ⟨rest, hrest⟩ := List.rdropWhile_prefix isBlank (l := cs.dropWhile isBlank)
      rw [← hrest]
      exact List.head?_append_of_ne_nil _ (List.ne_nil_of_mem (List.mem_of_head? hc)) ▸ hc
    have hnot := List.head?_dropWhile_not isBlank cs
    simpa [hfirst] using hnot
  · intro c hc
    obtain ⟨hne, rfl⟩ := List.mem_getLast?_eq_getLast hc
    exact Bool.eq_false_iff.mpr (List.rdropWhile_last_not isBlank (cs.dropWhile isBlank) hne)

theorem Trimmed.trimChars_eq {cs : List Char} (h : Trimmed cs) : trimChars cs = cs := by
  obtain ⟨hfirst, hlast⟩ := h
  have hdrop : cs.dropWhile isBlank = cs := by
    cases cs with
    | nil => rfl
    | cons c cs => simp [hfirst c rfl]
  rw [trimChars, hdrop, dropEndWhile_eq_rdropWhile, List.rdropWhile_eq_self_iff]
  intro hne
  simp [hlast _ (List.getLast?_eq_getLast_of_ne_nil hne)]

def blanks : List (Nat × Nat) :=
  [(0x9, 0xd), (0x1c, 0x20), (0x85, 0x85), (0xa0, 0xa0), (0x1680, 0x1680), (0x2000, 0x200a),
    (0x2028, 0x2029), (0x202f, 0x202f), (0x205f, 0x205f), (0x3000, 0x3000)]

theorem isBlank_iff_inRanges {c : Char} : isBlank c = true ↔ inRanges blanks c = true := by
  simp only [isBlank, inRanges, blanks, List.any_cons, List.any_nil, Bool.or_eq_true,
    Bool.and_eq_true, decide_eq_true_eq, beq_iff_eq, Bool.or_false]
  omega

def CaseRun.avoids (r : CaseRun) (b : Nat × Nat) : Bool :=
  (r.last : Int) + r.shift < b.1 || (b.2 : Int) < r.first + r.shift

theorem blanks_pos : ∀ b ∈ blanks, 0 < b.1 := by decide

theorem capitals_avoid_blanks : ∀ r ∈ capitals, ∀ b ∈ blanks, r.avoids b = true := by decide +kernel

theorem toNat_ofNat_or (n : Nat) : (Char.ofNat n).toNat = n ∨ (Char.ofNat n).toNat = 0 := by
  unfold Char.ofNat
  split
  · exact .inl rfl
  · exact .inr rfl

theorem isBlank_ofNat {n : Nat} (h : ∀ b ∈ blanks, n < b.1 ∨ b.2 < n) :
    isBlank (Char.ofNat n) = false := by
  rw [← Bool.not_eq_true, isBlank_iff_inRanges, inRanges, List.any_eq_true]
  rintro ⟨b, hb, hin⟩
  simp only [Bool.and_eq_true, decide_eq_true_eq] at hin
  obtain hn | hn := toNat_ofNat_or n
  · have := h b hb
    omega
  · have := blanks_pos b hb
    omega

theorem isBlank_toLower : ∀ n < 128, isBlank (Char.ofNat n).toLower = isBlank (Char.ofNat n) := by
  decide +kernel

theorem isBlank_lowerChar {c : Char} (h : isBlank c = false) : isBlank (lowerChar c) = false := by
  unfold lowerChar
  split
  · rename_i hascii
    have hsame := isBlank_toLower c.toNat hascii
    rwa [Char.ofNat_toNat, h] at hsame
  · split
    · rename_i r hr
      have hcovers := List.find?_some hr
      simp only [CaseRun.covers, Bool.and_eq_true, decide_eq_true_eq] at hcovers
      refine isBlank_ofNat fun b hb => ?_
      have havoids := capitals_avoid_blanks r (List.mem_of_find?_eq_some hr) b hb
      simp only [CaseRun.avoids, Bool.or_eq_true, decide_eq_true_eq] at havoids
      have := blanks_pos b hb
      omega
    · exact h

/-- A character gives at least one in lower case, and none that is blank unless it is itself. -/
theorem exists_lowerFrom_cons (before : List Char) (c : Char) (rest : List Char) : ∃ low,
    lowerFrom before (c :: rest) = low ++ lowerFrom (c :: before) rest ∧ low ≠ [] ∧
      (isBlank c = false → ∀ d ∈ low, isBlank d = false) := by
  refine ⟨_, rfl, ?_, ?_⟩
  · split
    · simp
    · split <;> simp
  · intro hc d hd
    split at hd
    · rw [List.mem_singleton.mp hd]
      split <;> decide
    · split at hd
      · obtain rfl | rfl : d = 'i' ∨ d = Char.ofNat 0x307 := by simpa using hd
        · decide
        · decide
      · rw [List.mem_singleton.mp hd]
        exact isBlank_lowerChar hc

theorem lowerFrom_ne_nil {before cs : List Char} (h : cs ≠ []) : lowerFrom before cs ≠ [] := by
  cases cs with
  | nil => exact absurd rfl h
  | cons c rest =>
    obtain ⟨low, heq, hlow, -⟩ := exists_lowerFrom_cons before c rest
    simp [heq, hlow]

theorem getLast?_lowerFrom {before cs : List Char} (h : ∀ c ∈ cs.getLast?, isBlank c = false) :
    ∀ d ∈ (lowerFrom before cs).getLast?, isBlank d = false := by
  induction cs generalizing before with
  | nil => exact fun d hd => nomatch hd
  | cons c rest ih =>
    obtain ⟨low, heq, hlow, hblank⟩ := exists_lowerFrom_cons before c rest
    rw [heq]
    cases rest with
    | nil =>
      intro d hd
      exact hblank (h c rfl) d (by simpa [lowerFrom] using List.mem_of_getLast? hd)
    | cons c' rest =>
      rw [List.getLast?_append_of_ne_nil _ (lowerFrom_ne_nil (List.cons_ne_nil _ _))]
      exact ih (by simpa using h)

theorem Trimmed.lowerFrom {cs : List Char} (h : Trimmed cs) : Trimmed (lowerFrom [] cs) := by
  refine ⟨?_, getLast?_lowerFrom h.2⟩
  cases cs with
  | nil => exact fun d hd => nomatch hd
  | cons c rest =>
    obtain ⟨low, heq, hlow, hblank⟩ := exists_lowerFrom_cons [] c rest
    rw [heq, List.head?_append_of_ne_nil _ hlow]
    exact fun d hd => hblank (h.1 c rfl) d (List.mem_of_head? hd)

theorem trim_trim (s : String) : trim (trim s) = trim s := by
  simp only [trim, String.toList_ofList, (trimmed_trimChars s.toList).trimChars_eq]

theorem trim_lower_trim (s : String) : trim (lower (trim s)) = lower (trim s) := by
  simp only [trim, lower, String.toList_ofList, (trimmed_trimChars s.toList).lowerFrom.trimChars_eq]

theorem lower_eq_empty_iff (s : String) : lower s = "" ↔ s = "" := by
  constructor
  · intro h
    by_contra hne
    have hlow : lowerFrom [] s.toList ≠ [] := lowerFrom_ne_nil (by simpa using hne)
    exact hlow (by simpa [lower] using congrArg String.toList h)
  · rintro rfl
    rfl

end ServiceDiscovery.Text
