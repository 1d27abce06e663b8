import Mathlib
import ServiceDiscovery.Number.Nearest

/-!
How far doubles are from the numbers that they are rounded from: half a unit in the last place,
which is the 53rd binary place of the number or the lowest place that there is.
-/
namespace ServiceDiscovery.Number

theorem abs_roundEven_sub_le (q : ℚ) : |roundEven q - q| ≤ 1 / 2 := by
  have hbelow : (q.floor : ℚ) ≤ q := Rat.floor_le q
  have habove : q < (q.floor + 1 : ℤ) := Rat.lt_floor_add_one q
  push_cast at habove
  unfold roundEven
  dsimp only
  split
  · rw [abs_le]
    constructor <;> linarith
  split
  · push_cast
    rw [abs_le]
    constructor <;> linarith
  · have hhalf : q - q.floor = 1 / 2 := by linarith
    obtain heven | hodd := Int.emod_two_eq_zero_or_one q.floor
    · rw [heven, abs_le]
      constructor <;> push_cast <;> linarith
    · rw [hodd, abs_le]
      constructor <;> push_cast <;> linarith

theorem abs_eq_natAbs_div_den (q : ℚ) : |q| = q.num.natAbs / q.den := by
  rw [Rat.abs_def, Rat.divInt_eq_div]
  push_cast
  rw [Nat.cast_natAbs, Int.cast_abs]

theorem two_zpow_binade_le {q : ℚ} (hq : q ≠ 0) : (2 : ℚ) ^ binade q ≤ |q| := by
  have habs : q.abs = |q| := by
    unfold Rat.abs
    split
    · exact (abs_of_nonneg ‹_›).symm
    · exact (abs_of_neg (not_le.mp ‹_›)).symm
  unfold binade
  dsimp only
  rw [habs]
  split
  · assumption
  · have hnum : (2 : ℚ) ^ q.num.natAbs.log2 ≤ q.num.natAbs := by
      exact_mod_cast Nat.log2_self_le (by simpa using hq)
    have hden : (q.den : ℚ) ≤ 2 ^ (q.den.log2 + 1) := by exact_mod_cast Nat.lt_log2_self.le
    have hexponent : (q.num.natAbs.log2 : ℤ) - q.den.log2 - 1 = q.num.natAbs.log2 -
        (q.den.log2 + 1 : ℕ) := by
      push_cast
      ring
    rw [hexponent, zpow_sub₀ two_ne_zero, zpow_natCast, zpow_natCast, abs_eq_natAbs_div_den]
    have hpos : (0 : ℚ) < q.den := by exact_mod_cast q.den_pos
    gcongr

theorem two_zpow_lastPlace_le {q : ℚ} (hq : q ≠ 0) :
    (2 : ℚ) ^ lastPlace q ≤ |q| / 2 ^ 52 + 2 ^ (-1074 : ℤ) := by
  have hlowest : (0 : ℚ) < 2 ^ (-1074 : ℤ) := by positivity
  have hleading : (2 : ℚ) ^ (binade q - 52) ≤ |q| / 2 ^ 52 := by
    rw [zpow_sub₀ two_ne_zero, zpow_ofNat]
    gcongr
    exact two_zpow_binade_le hq
  rcases max_choice (binade q - 52) (-1074) with hplace | hplace
  · rw [lastPlace, hplace]
    linarith
  · rw [lastPlace, hplace]
    linarith [div_nonneg (abs_nonneg q) (by norm_num : (0 : ℚ) ≤ 2 ^ 52)]

theorem abs_nearest_sub_le (q : ℚ) : |nearest q - q| ≤ |q| / 2 ^ 53 + 2 ^ (-1074 : ℤ) := by
  obtain rfl | hq := eq_or_ne q 0
  · have hzero : nearest 0 = 0 := by decide +kernel
    rw [hzero, sub_zero, abs_zero, zero_div, zero_add]
    positivity
  have hplace : (0 : ℚ) < 2 ^ lastPlace q := by positivity
  have hunits : nearest q - q =
      (roundEven (q / 2 ^ lastPlace q) - q / 2 ^ lastPlace q) * 2 ^ lastPlace q := by
    rw [nearest, sub_mul, div_mul_cancel₀ _ hplace.ne']
  have hlast := two_zpow_lastPlace_le hq
  have hlowest : (0 : ℚ) < 2 ^ (-1074 : ℤ) := by positivity
  calc |nearest q - q| = |roundEven (q / 2 ^ lastPlace q) - q / 2 ^ lastPlace q| * 2 ^
    lastPlace q := by
        rw [hunits, abs_mul, abs_of_pos hplace]
    _ ≤ 1 / 2 * 2 ^ lastPlace q := by
        gcongr
        exact abs_roundEven_sub_le _
    _ ≤ |q| / 2 ^ 53 + 2 ^ (-1074 : ℤ) := by linarith

theorem two_zpow_lowest_le : (2 : ℚ) ^ (-1074 : ℤ) ≤ 1 / 2 ^ 100 := by
  rw [one_div, ← zpow_natCast, ← zpow_neg]
  exact zpow_le_zpow_right₀ one_le_two (by norm_num)

end ServiceDiscovery.Number
