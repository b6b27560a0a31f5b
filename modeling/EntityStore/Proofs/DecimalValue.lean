import EntityStore.Number.Decimal
import EntityStore.Proofs.HalfEven
import Mathlib.Algebra.Order.Field.Power
import Mathlib.Tactic.Linarith
import Mathlib.Tactic.Positivity
import Mathlib.Tactic.Ring

/-! # The value of a decimal number

A finite decimal number stands for a fraction. Taking off zeros at its end keeps the value;
normalizing keeps it where no more than 28 digits are there, and is a rounding otherwise.
-/
namespace EntityStore

/-! ## Digits -/

theorem digitCount_pos (n : ℕ) : 0 < digitCount n := Nat.length_toDigits_pos

theorem digitCount_le_iff {n k : ℕ} (hk : 0 < k) : digitCount n ≤ k ↔ n < 10 ^ k :=
  Nat.length_toDigits_le_iff (by decide) hk

theorem lt_pow_digitCount (n : ℕ) : n < 10 ^ digitCount n :=
  (digitCount_le_iff (digitCount_pos n)).mp le_rfl

theorem pow_le_of_lt_digitCount {n k : ℕ} (hn : n ≠ 0) (h : k < digitCount n) : 10 ^ k ≤ n := by
  rcases Nat.eq_zero_or_pos k with rfl | hk
  · rw [pow_zero]
    omega
  · by_contra hc
    have := (digitCount_le_iff hk).mpr (Nat.lt_of_not_le hc)
    omega

namespace Decimal

/-- The fraction that a coefficient and a power of ten stand for. -/
def scaled (c : ℕ) (e : ℤ) : ℚ := c * 10 ^ e

/-- The exact value of a finite number. -/
def value? : Decimal → Option ℚ
  | finite negative c e => some (if negative then -scaled c e else scaled c e)
  | _ => none

theorem scaled_nonneg (c : ℕ) (e : ℤ) : 0 ≤ scaled c e := by
  unfold scaled
  positivity

theorem scaled_mul_pow (c k : ℕ) (e : ℤ) : scaled (c * 10 ^ k) e = scaled c (e + k) := by
  unfold scaled
  rw [zpow_add₀ (by norm_num), zpow_natCast]
  push_cast
  ring

theorem stripZeros_scaled (steps c : ℕ) (e : ℤ) :
    scaled (stripZeros steps c e).1 (stripZeros steps c e).2 = scaled c e := by
  induction steps generalizing c e with
  | zero => rfl
  | succ steps ih =>
    rw [stripZeros]
    split
    · rename_i hc
      rw [ih, ← Nat.cast_one, ← scaled_mul_pow, pow_one,
        Nat.div_mul_cancel (Nat.dvd_of_mod_eq_zero hc)]
    · rfl

/-! ## Digits in use -/

/-- The number has at most some digits after the point. -/
def Places (k : ℕ) (q : ℚ) : Prop := ∃ m : ℤ, q * 10 ^ k = m

theorem Places.mono {k l : ℕ} {q : ℚ} (h : Places k q) (hkl : k ≤ l) : Places l q := by
  obtain ⟨m, hm⟩ := h
  refine ⟨m * 10 ^ (l - k), ?_⟩
  rw [← Nat.add_sub_cancel' hkl, pow_add, ← mul_assoc, hm]
  push_cast
  simp

variable {s : Bool} {c : ℕ} {e : ℤ}

theorem scaled_lt_digitUse :
    scaled c e < 10 ^ ((finite s c e).digitUse.1 - (finite s c e).digitUse.2) := by
  have hc : (c : ℚ) < 10 ^ digitCount c := by exact_mod_cast lt_pow_digitCount c
  rcases le_or_gt 0 e with he | he
  · lift e to ℕ using he
    simp only [scaled, digitUse, if_pos (Int.natCast_nonneg e), Nat.sub_zero, Int.toNat_natCast]
    rw [pow_add, zpow_natCast]
    exact mul_lt_mul_of_pos_right hc (by positivity)
  · obtain ⟨n, rfl⟩ := Int.exists_eq_neg_ofNat he.le
    simp only [scaled, digitUse, if_neg (not_le.mpr he), Int.natAbs_neg, Int.natAbs_natCast]
    rw [zpow_neg, zpow_natCast, ← div_eq_mul_inv, div_lt_iff₀ (by positivity), ← pow_add]
    refine lt_of_lt_of_le hc (pow_le_pow_right₀ (by norm_num) ?_)
    omega

theorem places_digitUse : Places (finite s c e).digitUse.2 (scaled c e) := by
  rcases le_or_gt 0 e with he | he
  · lift e to ℕ using he
    refine ⟨c * 10 ^ e, ?_⟩
    simp [scaled, digitUse]
  · obtain ⟨n, rfl⟩ := Int.exists_eq_neg_ofNat he.le
    refine ⟨c, ?_⟩
    simp only [scaled, digitUse, if_neg (not_le.mpr he), Int.natAbs_neg, Int.natAbs_natCast]
    rw [zpow_neg, zpow_natCast, mul_assoc, inv_mul_cancel₀ (by positivity)]
    simp

/-! ## Normalizing -/

theorem normalize_scaled (s : Bool) (c : ℕ) (e : ℤ) :
    ∃ c' e', (finite s c e).normalize = finite s c' e' ∧
      scaled c' e' =
        scaled (roundHalfEven c (10 ^ excessDigits c e)) (e + excessDigits c e) := by
  set x := excessDigits c e with hx
  have hr : (if x = 0 then c else if digitCount c < x then 0 else roundHalfEven c (Nat.pow 10 x))
      = roundHalfEven c (10 ^ x) := by
    split
    · rename_i h
      rw [h, pow_zero, roundHalfEven_one]
    · split
      · rename_i h
        -- a coefficient below a tenth of the last place kept is rounded to nothing
        have hp : 10 ^ x = 10 * 10 ^ (x - 1) := by
          rw [← Nat.pow_succ', Nat.succ_eq_add_one, Nat.sub_add_cancel (by omega)]
        have hc : c < 10 ^ (x - 1) := by
          by_cases h1 : 0 < x - 1
          · exact (digitCount_le_iff h1).mp (by omega)
          · have := digitCount_pos c
            omega
        exact (roundHalfEven_of_near (by omega) (by omega)).symm
      · rfl
  unfold normalize
  simp only [← hx, hr]
  split
  · rename_i h
    exact ⟨0, 0, rfl, by simp [h, scaled]⟩
  · refine ⟨_, _, rfl, ?_⟩
    rw [stripZeros_scaled]

/-- What is rounded off does not bring a number below a power of ten. -/
theorem scaled_lt_of_rounded {w : ℕ}
    (h : scaled (roundHalfEven c (10 ^ excessDigits c e)) (e + excessDigits c e) < 10 ^ w) :
    scaled c e < 10 ^ w := by
  set x := excessDigits c e with hx
  by_contra hc
  rw [not_lt] at hc
  have hpos : (0 : ℚ) < 10 ^ (e + x) := by positivity
  rcases le_or_gt (e + x) w with hle | hlt
  · -- the power of ten is a multiple of the last place kept
    obtain ⟨k, hk⟩ := Int.le.dest hle
    have hw : (10 : ℚ) ^ w = scaled (10 ^ k * 10 ^ x) e := by
      rw [scaled_mul_pow, scaled, ← zpow_natCast, ← hk, zpow_add₀ (by norm_num)]
      push_cast
      rw [zpow_natCast]
      ring
    have hkc : 10 ^ k * 10 ^ x ≤ c := by
      rw [hw, scaled, scaled, mul_le_mul_iff_left₀ (by positivity)] at hc
      exact_mod_cast hc
    have hr : 10 ^ k ≤ roundHalfEven c (10 ^ x) := le_roundHalfEven_of_le (by positivity) hkc
    have : (10 : ℚ) ^ w ≤ scaled (roundHalfEven c (10 ^ x)) (e + x) := by
      rw [hw, scaled_mul_pow, scaled, scaled, mul_le_mul_iff_left₀ hpos]
      exact_mod_cast hr
    linarith
  · -- the last place kept is above the power of ten, and some digit is kept there
    have hc0 : c ≠ 0 := by
      rintro rfl
      simp only [scaled, Nat.cast_zero, zero_mul] at hc
      have : (0 : ℚ) < 10 ^ w := by positivity
      linarith
    have hxc : x < digitCount c := by
      have := digitCount_pos c
      simp only [excessDigits, leastExponent] at hx
      omega
    have hr : 1 ≤ roundHalfEven c (10 ^ x) :=
      le_roundHalfEven_of_le (by positivity) (by simpa using pow_le_of_lt_digitCount hc0 hxc)
    have h1 : (10 : ℚ) ^ (e + x) ≤ scaled (roundHalfEven c (10 ^ x)) (e + x) := by
      rw [scaled]
      exact le_mul_of_one_le_left hpos.le (by exact_mod_cast hr)
    have h2 : (10 : ℚ) ^ w ≤ 10 ^ (e + x) := by
      rw [← zpow_natCast]
      exact zpow_le_zpow_right₀ (by norm_num) hlt.le
    linarith

end Decimal

end EntityStore
