import EntityStore.Proofs.Nearest
import Mathlib.Data.Rat.Floor

/-! # Where rounding turns

Halfway between two neighbours rounding takes the even one. So what is half a unit below an even
number is rounded up to it, and the finite numbers end half a unit below the power of two after them.
-/
namespace EntityStore

section HalfEven

variable {num den k : ℕ}

theorem roundHalfEven_tie (h : 2 * (num % den) = den) :
    roundHalfEven num den % 2 = 0 := by
  have hlow : ¬ 2 * (num % den) < den := by omega
  have hhigh : ¬ den < 2 * (num % den) := by omega
  simp only [roundHalfEven, if_neg hlow, if_neg hhigh]
  split <;> omega

/-- From half a unit below an even number on, a fraction is rounded to it or above. -/
theorem le_roundHalfEven_iff (hd : 0 < den) (hk : k % 2 = 0) :
    k ≤ roundHalfEven num den ↔ 2 * (k * den) ≤ 2 * num + den := by
  constructor
  · intro h
    have hle := roundHalfEven_le num den
    have hmul := Nat.mul_le_mul_right den h
    omega
  · intro h
    by_contra hlt
    have hmul : (roundHalfEven num den + 1) * den ≤ k * den := Nat.mul_le_mul_right _ (by omega)
    rw [Nat.add_mul, Nat.one_mul] at hmul
    have hle : 2 * num ≤ 2 * (roundHalfEven num den * den) + den := le_roundHalfEven hd
    -- no room is left but for a tie just below `k`, and a tie goes to an even number
    have hsucc : k = roundHalfEven num den + 1 := by
      by_contra hne
      have hmul' : (roundHalfEven num den + 2) * den ≤ k * den := Nat.mul_le_mul_right _ (by omega)
      rw [Nat.add_mul] at hmul'
      omega
    have hdm := Nat.div_add_mod' num den
    have hmod := Nat.mod_lt num hd
    have htie : 2 * (num % den) = den := by
      rcases roundHalfEven_eq num den with ⟨hr, -⟩ | ⟨hr, -⟩
      · rw [hr] at hmul hle
        omega
      · rw [hr, Nat.add_mul, Nat.one_mul] at hmul hle
        omega
    have heven := roundHalfEven_tie htie
    omega

/-- Up to half a unit above an even number, a fraction is rounded to it or below. -/
theorem roundHalfEven_le_iff (hd : 0 < den) (hk : k % 2 = 0) :
    roundHalfEven num den ≤ k ↔ 2 * num ≤ 2 * (k * den) + den := by
  constructor
  · intro h
    have hle : 2 * num ≤ 2 * (roundHalfEven num den * den) + den := le_roundHalfEven hd
    have hmul := Nat.mul_le_mul_right den h
    omega
  · intro h
    by_contra hlt
    have hmul : (k + 1) * den ≤ roundHalfEven num den * den := Nat.mul_le_mul_right _ (by omega)
    rw [Nat.add_mul, Nat.one_mul] at hmul
    have hle := roundHalfEven_le num den
    have hsucc : roundHalfEven num den = k + 1 := by
      by_contra hne
      have hmul' : (k + 2) * den ≤ roundHalfEven num den * den :=
        Nat.mul_le_mul_right _ (by omega)
      rw [Nat.add_mul] at hmul'
      omega
    have hdm := Nat.div_add_mod' num den
    have hmod := Nat.mod_lt num hd
    have htie : 2 * (num % den) = den := by
      rcases roundHalfEven_eq num den with ⟨hr, hm⟩ | ⟨hr, hm⟩
      · rw [hr] at hmul hle
        omega
      · rw [hr, Nat.add_mul, Nat.one_mul] at hmul hle
        omega
    have heven := roundHalfEven_tie htie
    omega

end HalfEven

namespace Binary64

variable {num den k : ℕ}

/-! ## Mantissas -/

theorem le_roundedMantissa_iff (hd : 0 < den) (hk : k % 2 = 0) :
    k ≤ roundedMantissa num den ↔
      dyadic k (lastPlace num den) - 2 ^ lastPlace num den / 2 ≤ (num : ℚ) / den := by
  obtain ⟨a, b, hb, hr, hq⟩ := roundedMantissa_eq num hd
  have hbq : (0 : ℚ) < b := by exact_mod_cast hb
  have hp : (0 : ℚ) < 2 ^ lastPlace num den := by positivity
  have hunit : dyadic k (lastPlace num den) - 2 ^ lastPlace num den / 2 =
      (k - 1 / 2) * 2 ^ lastPlace num den := by
    rw [dyadic]
    ring
  rw [hr, le_roundHalfEven_iff hb hk, hunit, hq, mul_le_mul_iff_left₀ hp, le_div_iff₀ hbq]
  constructor
  · intro h
    have h' : (2 : ℚ) * (k * b) ≤ 2 * a + b := by exact_mod_cast h
    linarith
  · intro h
    have h' : (2 : ℚ) * (k * b) ≤ 2 * a + b := by linarith
    exact_mod_cast h'

theorem roundedMantissa_le_iff (hd : 0 < den) (hk : k % 2 = 0) :
    roundedMantissa num den ≤ k ↔
      (num : ℚ) / den ≤ dyadic k (lastPlace num den) + 2 ^ lastPlace num den / 2 := by
  obtain ⟨a, b, hb, hr, hq⟩ := roundedMantissa_eq num hd
  have hbq : (0 : ℚ) < b := by exact_mod_cast hb
  have hp : (0 : ℚ) < 2 ^ lastPlace num den := by positivity
  have hunit : dyadic k (lastPlace num den) + 2 ^ lastPlace num den / 2 =
      (k + 1 / 2) * 2 ^ lastPlace num den := by
    rw [dyadic]
    ring
  rw [hr, roundHalfEven_le_iff hb hk, hunit, hq, mul_le_mul_iff_left₀ hp, div_le_iff₀ hbq]
  constructor
  · intro h
    have h' : (2 : ℚ) * a ≤ 2 * (k * b) + b := by exact_mod_cast h
    linarith
  · intro h
    have h' : (2 : ℚ) * a ≤ 2 * (k * b) + b := by linarith
    exact_mod_cast h'

/-! ## The largest finite number -/

/-- Half a unit beyond the largest finite number; from here on rounding overflows. -/
def overflowBound : ℚ := 2 ^ (1024 : ℤ) - 2 ^ (970 : ℤ)

theorem overflowBound_bounds :
    (2 : ℚ) ^ (1023 : ℤ) ≤ overflowBound ∧ overflowBound < 2 ^ (1024 : ℤ) := by
  have hdouble : (2 : ℚ) ^ (1024 : ℤ) = 2 ^ (1023 : ℤ) * 2 := zpow_add_one₀ (by norm_num) 1023
  have hle : (2 : ℚ) ^ (970 : ℤ) ≤ 2 ^ (1023 : ℤ) := zpow_le_zpow_right₀ (by norm_num) (by norm_num)
  have hpos : (0 : ℚ) < 2 ^ (970 : ℤ) := zpow_pos (by norm_num) _
  rw [overflowBound, hdouble]
  generalize (2 : ℚ) ^ (1023 : ℤ) = top at hle ⊢
  generalize (2 : ℚ) ^ (970 : ℤ) = half at hle hpos ⊢
  constructor <;> linarith

theorem overflowBound_eq : overflowBound = dyadic (2 ^ 53) maxExponent - 2 ^ maxExponent / 2 := by
  have htop : (53 : ℕ) + maxExponent = 1024 := by decide
  have hlast : (2 : ℚ) ^ maxExponent = 2 ^ (970 : ℤ) * 2 := zpow_add_one₀ (by norm_num) 970
  rw [overflowBound, dyadic_two_pow, htop, hlast]
  generalize (2 : ℚ) ^ (970 : ℤ) = half
  rw [mul_div_cancel_right₀ half (by norm_num)]

/-- The number that a fraction is rounded to, where it is not beyond the finite ones. -/
def rounded (num den : ℕ) : ℚ := dyadic (roundedMantissa num den) (lastPlace num den)

theorem ofRatio_rounded (s : Bool) (hn : 0 < num) (hd : 0 < den)
    (h : (num : ℚ) / den < overflowBound) :
    ∃ m e hf, ofRatio s num den = finite s m e hf ∧ dyadic m e = rounded num den := by
  have hplace : binade num den < 1024 :=
    (zpow_lt_zpow_iff_right₀ (by norm_num : (1 : ℚ) < 2)).mp
      ((binade_spec hn hd).1.trans_lt (h.trans overflowBound_bounds.2))
  refine ofRatio_finite s hn hd ?_
  by_cases htop : lastPlace num den = maxExponent
  · refine .inr ⟨htop, ?_⟩
    by_contra hfull
    have hbound := (le_roundedMantissa_iff hd (by norm_num : 2 ^ 53 % 2 = 0)).mp (not_lt.mp hfull)
    rw [htop, ← overflowBound_eq] at hbound
    exact absurd hbound (not_le.mpr h)
  · left
    unfold lastPlace maxExponent minExponent at htop ⊢
    omega

theorem ofRatio_overflow (s : Bool) (hn : 0 < num) (hd : 0 < den)
    (h : overflowBound ≤ (num : ℚ) / den) : ofRatio s num den = infinity s := by
  have hplace : 1023 < binade num den + 1 :=
    (zpow_lt_zpow_iff_right₀ (by norm_num : (1 : ℚ) < 2)).mp
      ((overflowBound_bounds.1.trans h).trans_lt (binade_spec hn hd).2)
  rw [ofRatio_eq s hn]
  refine pack_infinity s ?_
  by_cases hlarge : maxExponent < lastPlace num den
  · exact .inl hlarge
  · have htop : lastPlace num den = maxExponent := by
      unfold lastPlace maxExponent minExponent at hlarge ⊢
      omega
    refine .inr ⟨htop, le_antisymm (roundedMantissa_le_top hn hd) ?_⟩
    rw [le_roundedMantissa_iff hd (by norm_num), htop, ← overflowBound_eq]
    exact h

end Binary64

end EntityStore
