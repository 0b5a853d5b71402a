import CatalogSearch.Number.Double
import Mathlib.Algebra.Order.Field.Power
import Mathlib.Tactic.Linarith
import Mathlib.Tactic.Ring

/-! # Exact values of floating-point numbers

A finite number is a fraction, and two of them compare as their fractions do. A whole number is rounded to one on the
same side of one half, so that rounding never takes it over that bound.
-/

namespace CatalogSearch.Number

/-- Scaling multiplies a fraction by a power of two. -/
theorem scaled_value (num : Nat) {den : Nat} (positive : 0 < den) (exponent : Int) :
    0 < (scaled num den exponent).2 ∧
      ((scaled num den exponent).1 : ℚ) / (scaled num den exponent).2 = num / den * (2 : ℚ) ^ (-exponent) := by
  have two : (2 : ℚ) ≠ 0 := by norm_num
  by_cases upward : 0 ≤ exponent
  · obtain ⟨power, rfl⟩ := Int.eq_ofNat_of_zero_le upward
    rw [scaled, if_pos upward]
    refine ⟨Nat.mul_pos positive (Nat.pow_pos (by decide)), ?_⟩
    simp only [Int.toNat_natCast, Nat.pow_eq, Nat.cast_mul, Nat.cast_pow, Nat.cast_ofNat, zpow_neg, zpow_natCast]
    rw [div_mul_eq_div_div, div_eq_mul_inv]
  · obtain ⟨power, same⟩ := Int.eq_ofNat_of_zero_le (show 0 ≤ -exponent by omega)
    rw [scaled, if_neg upward, same]
    refine ⟨positive, ?_⟩
    simp only [Int.toNat_natCast, Nat.pow_eq, Nat.cast_mul, Nat.cast_pow, Nat.cast_ofNat, zpow_natCast]
    rw [mul_div_right_comm]

/-- The nearest whole number is no smaller than the fraction without its places. -/
theorem div_le_roundHalfEven (num den : Nat) : num / den ≤ roundHalfEven num den := by
  rw [roundHalfEven]
  split
  · exact Nat.le_refl _
  split
  · exact Nat.le_succ _
  · exact Nat.le_add_right _ _

/-- Rounding takes away no more than half of a fraction with a digit in front of the point. -/
theorem le_two_mul_roundHalfEven {num den : Nat} (positive : 0 < den) (digit : 1 ≤ num / den) :
    num ≤ 2 * roundHalfEven num den * den := by
  have above : num < num / den * den + den := Nat.lt_div_mul_add positive
  have kept := div_le_roundHalfEven num den
  nlinarith

namespace Double

/-- The exact value of a finite number. -/
def toRat? (x : Double) : Option ℚ :=
  x.toRatio?.map fun (num, den) => num / den

variable {x y : Double} {p q : ℚ}

theorem exists_toRatio? (value : x.toRat? = some q) :
    ∃ negative significand exponent num den, x = .finite negative significand exponent ∧
      x.toRatio? = some (num, den) ∧ 0 < den ∧ (num : ℚ) / den = q := by
  obtain ⟨⟨num, den⟩, ratio, same⟩ := Option.map_eq_some_iff.mp value
  cases x with
  | nan | infinite => cases ratio
  | finite negative significand exponent =>
    refine ⟨negative, significand, exponent, num, den, rfl, ratio, ?_, same⟩
    have positive := (scaled_value significand Nat.one_pos (-exponent)).1
    obtain ⟨_, rfl⟩ := Prod.mk.inj (Option.some.inj ratio)
    exact positive

theorem toRat?_finite (negative : Bool) (significand : Nat) (exponent : Int) :
    (finite negative significand exponent).toRat? =
      some ((if negative then -1 else 1) * (significand * (2 : ℚ) ^ exponent)) := by
  have value := (scaled_value significand Nat.one_pos (-exponent)).2
  rw [neg_neg, Nat.cast_one, div_one] at value
  rw [← value, toRat?, toRatio?]
  cases negative
  · simp
  · simp [neg_div]

theorem toRat?_zero (negative : Bool) : (zero negative).toRat? = some 0 := by
  rw [zero, toRat?_finite, Nat.cast_zero, zero_mul, mul_zero]

/-- Finite numbers compare as their exact values. -/
theorem less_iff (first : x.toRat? = some p) (second : y.toRat? = some q) : x.less y = true ↔ p < q := by
  obtain ⟨_, _, _, a, b, rfl, left, positive, rfl⟩ := exists_toRatio? first
  obtain ⟨_, _, _, c, d, rfl, right, positive', rfl⟩ := exists_toRatio? second
  rw [div_lt_div_iff₀ (by exact_mod_cast positive) (by exact_mod_cast positive'), less, left, right]
  dsimp only
  rw [decide_eq_true_iff]
  exact_mod_cast Iff.rfl

/-- Finite numbers are equal as their exact values are. -/
theorem same_iff (first : x.toRat? = some p) (second : y.toRat? = some q) : x.same y = true ↔ p = q := by
  obtain ⟨_, _, _, a, b, rfl, left, positive, rfl⟩ := exists_toRatio? first
  obtain ⟨_, _, _, c, d, rfl, right, positive', rfl⟩ := exists_toRatio? second
  have nonzero : (b : ℚ) ≠ 0 := by exact_mod_cast positive.ne'
  have nonzero' : (d : ℚ) ≠ 0 := by exact_mod_cast positive'.ne'
  rw [div_eq_div_iff nonzero nonzero', same, left, right]
  dsimp only
  rw [beq_iff_eq]
  exact_mod_cast Iff.rfl

/-! ## Whole numbers -/

/-- The exponent of a whole number leaves at least one digit in front of the point. -/
theorem two_zpow_exponentFor_le {num : Nat} (nonzero : num ≠ 0) : (2 : ℚ) ^ exponentFor num 1 ≤ num := by
  have bound : exponentFor num 1 ≤ (num.log2 : Int) := by
    have one : Nat.log2 1 = 0 := rfl
    rw [exponentFor, one]
    dsimp only
    split <;> omega
  calc
    (2 : ℚ) ^ exponentFor num 1 ≤ 2 ^ (num.log2 : Int) := zpow_le_zpow_right₀ (by norm_num) bound
    _ = ((2 ^ num.log2 : Nat) : ℚ) := by push_cast; rw [zpow_natCast]
    _ ≤ num := by exact_mod_cast Nat.log2_self_le nonzero

/-- Rounding takes away no more than half of a whole number. -/
theorem le_two_mul_of_ofRatio {negative sign : Bool} {num significand : Nat} {exponent : Int} (nonzero : num ≠ 0)
    (rounded : ofRatio negative num 1 = .finite sign significand exponent) :
    sign = negative ∧ (num : ℚ) ≤ 2 * (significand * (2 : ℚ) ^ exponent) := by
  have two : (0 : ℚ) < 2 ^ exponentFor num 1 := by positivity
  obtain ⟨positive, value⟩ := scaled_value num Nat.one_pos (exponentFor num 1)
  rw [Nat.cast_one, div_one, zpow_neg, ← div_eq_mul_inv] at value
  rw [ofRatio, if_neg nonzero] at rounded
  dsimp only at rounded
  generalize scaled num 1 (exponentFor num 1) = parts at positive value rounded
  obtain ⟨n, d⟩ := parts
  dsimp only at positive value rounded
  -- The exponent leaves a digit in front of the point.
  have digit : 1 ≤ n / d := by
    rw [Nat.le_div_iff_mul_le positive, Nat.one_mul]
    have large : (1 : ℚ) ≤ n / d := by
      rw [value, le_div_iff₀ two, one_mul]
      exact two_zpow_exponentFor_le nonzero
    rw [le_div_iff₀ (by exact_mod_cast positive), one_mul] at large
    exact_mod_cast large
  have nearest : (num : ℚ) ≤ 2 * (roundHalfEven n d * (2 : ℚ) ^ exponentFor num 1) := by
    have fraction : (n : ℚ) / d ≤ 2 * roundHalfEven n d := by
      rw [div_le_iff₀ (by exact_mod_cast positive)]
      exact_mod_cast le_two_mul_roundHalfEven positive digit
    rw [value, div_le_iff₀ two] at fraction
    rwa [← mul_assoc]
  split at rounded
  · next full =>
    split at rounded
    · cases rounded
    · obtain ⟨rfl, rfl, rfl⟩ := finite.inj rounded
      refine ⟨rfl, nearest.trans_eq ?_⟩
      rw [full, zpow_add₀ (by norm_num)]
      norm_num
      ring
  · split at rounded
    · cases rounded
    · obtain ⟨rfl, rfl, rfl⟩ := finite.inj rounded
      exact ⟨rfl, nearest⟩

private theorem ofRatio_ne_nan (negative : Bool) {num : Nat} (nonzero : num ≠ 0) : ofRatio negative num 1 ≠ .nan := by
  intro rounded
  rw [ofRatio, if_neg nonzero] at rounded
  dsimp only at rounded
  split at rounded <;> split at rounded <;> cases rounded

/-- A whole number within range is rounded as the fraction that it is. -/
theorem of_ofInt? {n : Int} (found : ofInt? n = some x) :
    ofRatio (n < 0) n.natAbs 1 = x ∧ ∀ negative, x ≠ .infinite negative := by
  rw [ofInt?] at found
  split at found
  · cases found
  · next other =>
    obtain rfl := Option.some.inj found
    exact ⟨rfl, other⟩

/-- A whole number that is rounded is rounded to one on its side of one half. -/
theorem exists_toRat?_of_ofInt? {n : Int} (found : ofInt? n = some x) :
    ∃ q, x.toRat? = some q ∧ (1 / 2 ≤ q ↔ (1 / 2 : ℚ) ≤ n) := by
  obtain ⟨rounded, bounded⟩ := of_ofInt? found
  rcases eq_or_ne n 0 with rfl | nonzero
  · obtain rfl : zero false = x := rounded
    exact ⟨_, toRat?_zero false, by norm_num⟩
  have whole : n.natAbs ≠ 0 := Int.natAbs_ne_zero.mpr nonzero
  cases x with
  | nan => exact absurd rounded (ofRatio_ne_nan _ whole)
  | infinite negative => exact absurd rfl (bounded negative)
  | finite sign significand exponent =>
    refine ⟨_, toRat?_finite _ _ _, ?_⟩
    obtain ⟨rfl, kept⟩ := le_two_mul_of_ofRatio whole rounded
    rcases lt_or_gt_of_ne nonzero with negative | positive
    · have below : (n : ℚ) < 0 := by exact_mod_cast negative
      have size : (0 : ℚ) ≤ significand * 2 ^ exponent := by positivity
      rw [if_pos (decide_eq_true negative)]
      constructor <;> intro above <;> linarith
    · have least : (1 : ℚ) ≤ n := by exact_mod_cast positive
      have same : ((n.natAbs : Nat) : ℚ) = n := by
        rw [← Int.cast_natCast, Int.natAbs_of_nonneg positive.le]
      rw [if_neg (by simpa using positive.le)]
      constructor <;> intro _ <;> linarith

end Double

end CatalogSearch.Number
