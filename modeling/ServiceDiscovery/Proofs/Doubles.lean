import Mathlib
import ServiceDiscovery.Number.Shortest

/-!
Equality of doubles. Those that are equal are the same number or both zero, those that stand for
whole numbers are equal just if these are, and there is only one that is not a number.
-/
namespace ServiceDiscovery.Number
open Float.Model Float.Model.UnpackedFloat

theorem compare_eq_some_eq {u v : UnpackedFloat} : u.compare v = some .eq ↔
    (u = v ∧ u ≠ .notANumber) ∨ (∃ s t, u = .zero s ∧ v = .zero t) := by
  cases u with
  | notANumber => cases v <;> simp [UnpackedFloat.compare]
  | infinity s =>
    cases v with
    | infinity t => cases s <;> cases t <;> simp [UnpackedFloat.compare, compare]
    | _ => cases s <;> simp [UnpackedFloat.compare]
  | zero s =>
    cases v with
    | zero t => simp [UnpackedFloat.compare]
    | infinity t | finite t => cases t <;> simp [UnpackedFloat.compare]
    | notANumber => simp [UnpackedFloat.compare]
  | finite s m e h =>
    cases v with
    | finite t =>
      cases s <;> cases t <;> simp [UnpackedFloat.compare, Ordering.then_eq_eq, and_comm]
    | infinity t => cases t <;> simp [UnpackedFloat.compare]
    | zero t => cases s <;> simp [UnpackedFloat.compare]
    | notANumber => simp [UnpackedFloat.compare]

/-! ### Words -/

def signBit : Sign → Nat
  | .negative => 2 ^ 63
  | .positive => 0

def wordOf : UnpackedFloat → Nat
  | .infinity s => signBit s + 2047 * 2 ^ 52
  | .notANumber => 0
  | .zero s => signBit s
  | .finite s m e _ => signBit s + (e + 1074).toNat * 2 ^ 52 + m

section Words
variable {b : BitVec (Format.numBits .binary64)}

theorem toNat_unpackMantissa : (@unpackMantissa .binary64 b).toNat = b.toNat % 2 ^ 52 := by
  simp [unpackMantissa, BitVec.extractLsb]

theorem toNat_unpackExponent : (@unpackExponent .binary64 b).toNat = b.toNat % 2 ^ 63 / 2 ^ 52 := by
  simp only [unpackExponent, BitVec.extractLsb, BitVec.toNat_cast, BitVec.extractLsb'_toNat,
    Nat.shiftRight_eq_div_pow]
  omega

theorem signBit_unpackSign :
    signBit (Sign.ofBitVec (@unpackSign .binary64 b)) = b.toNat / 2 ^ 63 * 2 ^ 63 := by
  have hb : b.toNat < 2 ^ 64 := b.isLt
  have hsign : (@unpackSign .binary64 b).toNat = b.toNat / 2 ^ 63 := by
    simp only [unpackSign, BitVec.extractLsb, BitVec.toNat_cast, BitVec.extractLsb'_toNat,
      Nat.shiftRight_eq_div_pow]
    omega
  rw [← hsign]
  generalize @unpackSign .binary64 b = s
  revert s
  decide

theorem unpackExponent_eq_iff {n : Nat} (hn : n < 2 ^ 11) :
    @unpackExponent .binary64 b = BitVec.ofNat 11 n ↔ b.toNat % 2 ^ 63 / 2 ^ 52 = n := by
  rw [← BitVec.toNat_inj, toNat_unpackExponent, BitVec.toNat_ofNat, Nat.mod_eq_of_lt hn]

theorem unpackExponent_eq_ones :
    @unpackExponent .binary64 b = -1#_ ↔ b.toNat % 2 ^ 63 / 2 ^ 52 = 2047 :=
  unpackExponent_eq_iff (by decide)

theorem unpackExponent_eq_zero :
    @unpackExponent .binary64 b = 0#_ ↔ b.toNat % 2 ^ 63 / 2 ^ 52 = 0 :=
  unpackExponent_eq_iff (by decide)

theorem unpackMantissa_eq_zero : @unpackMantissa .binary64 b = 0#_ ↔ b.toNat % 2 ^ 52 = 0 := by
  rw [← BitVec.toNat_inj, toNat_unpackMantissa]
  rfl

theorem toNat_one_append (m : BitVec 52) : (1#1 ++ m).toNat = 2 ^ 52 + m.toNat := by
  rw [BitVec.toNat_append, ← Nat.shiftLeft_add_eq_or_of_lt m.isLt]
  rfl

theorem wordOf_unpack (h : UnpackedFloat.unpack .binary64 b ≠ .notANumber) :
    wordOf (UnpackedFloat.unpack .binary64 b) = b.toNat := by
  have hmantissa := toNat_unpackMantissa (b := b)
  have hexponent := toNat_unpackExponent (b := b)
  have hsign := signBit_unpackSign (b := b)
  have hbias : Format.exponentBias .binary64 = 1023 := rfl
  unfold UnpackedFloat.unpack at h ⊢
  dsimp only at h ⊢
  split_ifs at h ⊢ with hones hfraction hfield hfraction
  · rw [unpackExponent_eq_ones] at hones
    rw [unpackMantissa_eq_zero] at hfraction
    simp only [wordOf, hsign]
    omega
  · exact absurd rfl h
  · rw [unpackExponent_eq_zero] at hfield
    rw [unpackMantissa_eq_zero] at hfraction
    simp only [wordOf, hsign]
    omega
  · rw [unpackExponent_eq_zero] at hfield
    simp only [wordOf, hsign, hmantissa, hexponent, hbias]
    omega
  · rw [unpackExponent_eq_zero] at hfield
    simp only [wordOf, hsign, toNat_one_append, hmantissa, hexponent, hbias]
    omega

theorem exists_unpack_eq_zero :
    (∃ s, UnpackedFloat.unpack .binary64 b = .zero s) ↔ b.toNat % 2 ^ 63 = 0 := by
  constructor
  · rintro ⟨s, hs⟩
    have hword := wordOf_unpack (b := b) (by simp [hs])
    rw [hs, wordOf] at hword
    cases s <;> simp only [signBit] at hword <;> omega
  · intro h
    have hones := mt (unpackExponent_eq_ones (b := b)).mp (by omega)
    have hfield := (unpackExponent_eq_zero (b := b)).mpr (by omega)
    have hfraction := (unpackMantissa_eq_zero (b := b)).mpr (by omega)
    refine ⟨Sign.ofBitVec (unpackSign b), ?_⟩
    unfold UnpackedFloat.unpack
    dsimp only
    rw [if_neg hones, if_pos hfield, dif_pos hfraction]

theorem unpack_ne_notANumber (h : b.toNat % 2 ^ 63 / 2 ^ 52 ≠ 2047) :
    UnpackedFloat.unpack .binary64 b ≠ .notANumber := by
  unfold UnpackedFloat.unpack
  dsimp only
  rw [if_neg (mt unpackExponent_eq_ones.mp h)]
  split_ifs <;> simp

theorem unpack_eq_notANumber (h : UnpackedFloat.unpack .binary64 b = .notANumber) :
    @unpackExponent .binary64 b = -1#_ ∧ @unpackMantissa .binary64 b ≠ 0#_ := by
  unfold UnpackedFloat.unpack at h
  dsimp only at h
  split_ifs at h with hones hfraction
  exact ⟨hones, hfraction⟩

end Words

/-! ### Magnitudes -/

def units (body : Nat) : Nat :=
  if body / 2 ^ 52 = 0 then body % 2 ^ 52 else (2 ^ 52 + body % 2 ^ 52) * 2 ^ (body / 2 ^ 52 - 1)

theorem units_strictMono : StrictMono units := by
  intro a b hab
  obtain hfields | hfields := Nat.lt_or_eq_of_le (Nat.div_le_div_right (c := 2 ^ 52) hab.le)
  · -- the greatest number with a smaller exponent lies below the least one with a greater exponent
    calc units a < 2 ^ 52 * 2 ^ (a / 2 ^ 52) := by
          unfold units
          split
          · rename_i hzero
            rw [hzero]
            omega
          · rename_i hpos
            obtain ⟨e, he⟩ := Nat.exists_eq_succ_of_ne_zero hpos
            rw [he, Nat.succ_sub_one, pow_succ' 2 e, ← Nat.mul_assoc]
            exact Nat.mul_lt_mul_of_pos_right (by omega) (Nat.two_pow_pos e)
      _ ≤ (2 ^ 52 + b % 2 ^ 52) * 2 ^ (b / 2 ^ 52 - 1) :=
          Nat.mul_le_mul (by omega) (Nat.pow_le_pow_right (by decide) (by omega))
      _ = units b := by rw [units, if_neg (by omega)]
  · have hfractions : a % 2 ^ 52 < b % 2 ^ 52 := by omega
    rw [units, units, hfields]
    split
    · exact hfractions
    · exact Nat.mul_lt_mul_of_pos_right (by omega) (Nat.two_pow_pos _)

theorem units_ofBits {body : Nat} (h : body < 2 ^ 63) :
    (Binary.ofBits body).mantissa * 2 ^ ((Binary.ofBits body).exponent + 1074).toNat =
      units body := by
  have hfield : body / 2 ^ 52 % 2048 = body / 2 ^ 52 := Nat.mod_eq_of_lt (by omega)
  simp only [Binary.ofBits, Nat.pow_eq, hfield, units]
  split
  · simp
  · have hexponent : ((body / 2 ^ 52 : Nat) - 1075 + 1074 : Int).toNat = body / 2 ^ 52 - 1 := by
      omega
    simp only [hexponent]

theorem exponent_ofBits (body : Nat) : -1074 ≤ (Binary.ofBits body).exponent := by
  simp only [Binary.ofBits]
  split
  · exact le_rfl
  · dsimp only
    omega

theorem whole_mul_pow {m : Nat} {e : Int} (he : -1074 ≤ e) (h : m % 2 ^ (-e).toNat = 0) :
    m / 2 ^ (-e).toNat * 2 ^ e.toNat * 2 ^ 1074 = m * 2 ^ (e + 1074).toNat := by
  obtain ⟨q, rfl⟩ := Nat.dvd_of_mod_eq_zero h
  have hexponents : e.toNat + 1074 = (-e).toNat + (e + 1074).toNat := by omega
  rw [Nat.mul_div_cancel_left _ (Nat.two_pow_pos _), Nat.mul_assoc, ← pow_add, hexponents, pow_add]
  ring

/-! ### Equality -/

section Equality
variable {x y : Float} {n : Int}

/-- A whole number that a double stands for has its magnitude and its sign. -/
theorem exists_of_floatInt? (h : floatInt? x = some n) :
    x.toBits.toNat % 2 ^ 63 / 2 ^ 52 ≠ 2047 ∧
    ∃ k : Nat, k * 2 ^ 1074 = units (x.toBits.toNat % 2 ^ 63) ∧
      n = if x.toBits.toNat / 2 ^ 63 = 1 then -(k : Int) else k := by
  simp only [floatInt?, Nat.pow_eq] at h
  split at h
  · cases h
  · rename_i hfinite
    split at h
    · rename_i hwhole
      refine ⟨hfinite, _, ?_, (Option.some.inj h).symm⟩
      rw [whole_mul_pow (exponent_ofBits _) hwhole, units_ofBits (Nat.mod_lt _ (by decide))]
    · cases h

theorem floatInt?_of_zero (h : x.toBits.toNat % 2 ^ 63 = 0) : floatInt? x = some 0 := by
  have hbinary : Binary.ofBits 0 = ⟨0, -1074, false⟩ := rfl
  simp only [floatInt?, Nat.pow_eq, h, hbinary]
  rw [if_neg (by decide), if_pos (Nat.zero_mod _)]
  simp only [Nat.zero_div, Nat.zero_mul, Nat.cast_zero, neg_zero, ite_self]

theorem eq_of_toBits (h : x.toBits.toNat = y.toBits.toNat) : x = y := by
  obtain ⟨⟨b, _⟩⟩ := x
  obtain ⟨⟨c, _⟩⟩ := y
  obtain rfl : b = c := UInt64.toNat_inj.mp h
  rfl

theorem isNaN_iff : x.isNaN = true ↔ x.toModel.unpack = .notANumber := by
  have hisNaN : x.isNaN = x.toModel.unpack.isNaN := rfl
  rw [hisNaN]
  cases x.toModel.unpack <;> simp [UnpackedFloat.isNaN]

theorem toNat_toBits_of_isNaN (h : x.isNaN = true) :
    x.toBits.toNat = (packedNaN .binary64).toNat := by
  obtain ⟨hexponent, hmantissa⟩ := unpack_eq_notANumber (isNaN_iff.mp h)
  exact congrArg BitVec.toNat (x.toModel.valid.eq_packedNaN hexponent hmantissa)

theorem eq_of_isNaN (hx : x.isNaN = true) (hy : y.isNaN = true) : x = y :=
  eq_of_toBits ((toNat_toBits_of_isNaN hx).trans (toNat_toBits_of_isNaN hy).symm)

theorem float_beq_iff : (x == y) = true ↔ (x = y ∧ x.toModel.unpack ≠ .notANumber) ∨
    (x.toBits.toNat % 2 ^ 63 = 0 ∧ y.toBits.toNat % 2 ^ 63 = 0) := by
  have hbeq : (x == y) = (x.toModel.unpack.compare y.toModel.unpack == some .eq) := rfl
  have hzero : ∀ z : Float, (∃ s, z.toModel.unpack = .zero s) ↔ z.toBits.toNat % 2 ^ 63 = 0 :=
    fun z => exists_unpack_eq_zero
  rw [hbeq, beq_iff_eq, compare_eq_some_eq, ← hzero, ← hzero]
  constructor
  · rintro (⟨hsame, hnumber⟩ | ⟨s, t, hx, hy⟩)
    · have hnumber' : y.toModel.unpack ≠ .notANumber := fun hy => hnumber (hsame.trans hy)
      have hwords : x.toBits.toNat = y.toBits.toNat :=
        (wordOf_unpack hnumber).symm.trans ((congrArg wordOf hsame).trans (wordOf_unpack hnumber'))
      exact .inl ⟨eq_of_toBits hwords, hnumber⟩
    · exact .inr ⟨⟨s, hx⟩, t, hy⟩
  · rintro (⟨rfl, hnumber⟩ | ⟨⟨s, hx⟩, t, hy⟩)
    · exact .inl ⟨rfl, hnumber⟩
    · exact .inr ⟨s, t, hx, hy⟩

theorem floatInt?_congr (h : (x == y) = true) : floatInt? x = floatInt? y := by
  obtain ⟨rfl, -⟩ | ⟨hx, hy⟩ := float_beq_iff.mp h
  · rfl
  · rw [floatInt?_of_zero hx, floatInt?_of_zero hy]

theorem eq_of_float_beq (h : (x == y) = true) (hx : floatInt? x = none) : x = y := by
  obtain ⟨rfl, -⟩ | ⟨hzero, -⟩ := float_beq_iff.mp h
  · rfl
  · cases (floatInt?_of_zero hzero).symm.trans hx

theorem float_beq_of_floatInt? (hx : floatInt? x = some n) (hy : floatInt? y = some n) :
    (x == y) = true := by
  obtain ⟨hfinite, k, hk, hn⟩ := exists_of_floatInt? hx
  obtain ⟨-, l, hl, hn'⟩ := exists_of_floatInt? hy
  obtain rfl : k = l := by split_ifs at hn hn' <;> omega
  have hbody := units_strictMono.injective (hk.symm.trans hl)
  rw [float_beq_iff]
  by_cases hzero : x.toBits.toNat % 2 ^ 63 = 0
  · exact .inr ⟨hzero, hbody ▸ hzero⟩
  · -- the sign of a number other than zero is that of the double
    have hpos : 0 < units (x.toBits.toNat % 2 ^ 63) := units_strictMono (Nat.pos_of_ne_zero hzero)
    have hk0 : k ≠ 0 := by
      rintro rfl
      omega
    have hx' := x.toBits.toNat_lt
    have hy' := y.toBits.toNat_lt
    have hsign : x.toBits.toNat / 2 ^ 63 = y.toBits.toNat / 2 ^ 63 := by
      split_ifs at hn hn' <;> omega
    exact .inl ⟨eq_of_toBits (by omega), unpack_ne_notANumber hfinite⟩

end Equality

end ServiceDiscovery.Number
