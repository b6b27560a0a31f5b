import EntityStore.Number.Shortest
import EntityStore.Proofs.Thresholds

/-! # The fractions that are rounded to a number

A fraction is rounded to a number exactly if it is in an interval around it, which reaches halfway to the
neighbours. The ends of the interval belong to it where the mantissa is even.
-/
namespace EntityStore

namespace Binary64

variable {m : ℕ} {e : ℤ} {num den : ℕ} {q : ℚ}

/-- A fraction is in the interval of a number, counted in quarters of its last place. -/
def Within (m : ℕ) (e : ℤ) (q : ℚ) : Prop :=
  if m % 2 = 0 then
    dyadic (roundingInterval m e).1 (e - 2) ≤ q ∧ q ≤ dyadic (4 * m + 2) (e - 2)
  else dyadic (roundingInterval m e).1 (e - 2) < q ∧ q < dyadic (4 * m + 2) (e - 2)

theorem dyadic_quarters (k : ℕ) (e : ℤ) : dyadic (4 * k) (e - 2) = dyadic k e := by
  rw [dyadic, dyadic, zpow_sub₀ (by norm_num)]
  push_cast
  ring

/-- Half of the last place above a number. -/
theorem dyadic_high (m : ℕ) (e : ℤ) : dyadic (4 * m + 2) (e - 2) = dyadic m e + 2 ^ e / 2 := by
  rw [dyadic, dyadic, zpow_sub₀ (by norm_num)]
  push_cast
  ring

theorem roundingInterval_low (hm : m ≠ 0) (hne : ¬ (m = 2 ^ 52 ∧ minExponent < e)) :
    dyadic (roundingInterval m e).1 (e - 2) = dyadic m e - 2 ^ e / 2 := by
  have hlow : (roundingInterval m e).1 = 4 * m - 2 := by
    simp only [roundingInterval, Nat.pow_eq, if_neg hne]
  have hcast : ((4 * m - 2 : ℕ) : ℚ) = 4 * m - 2 := by
    rw [Nat.cast_sub (by omega)]
    push_cast
    rfl
  rw [hlow, dyadic, hcast, dyadic, zpow_sub₀ (by norm_num)]
  ring

/-- At the bottom of a binade the places below are half as wide. -/
theorem roundingInterval_low_bottom (he : minExponent < e) :
    dyadic (roundingInterval (2 ^ 52) e).1 (e - 2) = dyadic (2 ^ 53) (e - 1) - 2 ^ (e - 1) / 2 := by
  have hlow : (roundingInterval (2 ^ 52) e).1 = 2 ^ 54 - 1 := by
    simp [roundingInterval, he]
  rw [hlow, dyadic, dyadic, zpow_sub₀ (by norm_num), zpow_sub₀ (by norm_num)]
  norm_num
  ring

/-! ## The place of the last digit -/

theorem lastPlace_of_bounds (hn : 0 < num) (hd : 0 < den) (hmin : minExponent ≤ e)
    (hlow : e = minExponent ∨ (2 : ℚ) ^ (e + 52) ≤ (num : ℚ) / den)
    (hhigh : (num : ℚ) / den < 2 ^ (e + 53)) : lastPlace num den = e := by
  obtain ⟨hb1, hb2⟩ := binade_spec hn hd
  have htop := (zpow_lt_zpow_iff_right₀ (by norm_num : (1 : ℚ) < 2)).mp (hb1.trans_lt hhigh)
  rcases hlow with rfl | hlow
  · simp only [lastPlace]
    omega
  · have hbottom := (zpow_lt_zpow_iff_right₀ (by norm_num : (1 : ℚ) < 2)).mp (hlow.trans_lt hb2)
    simp only [lastPlace]
    omega

theorem roundedMantissa_of_near (hd : 0 < den) (hlast : lastPlace num den = e)
    (h : |(num : ℚ) / den - dyadic m e| < 2 ^ e / 2) : roundedMantissa num den = m := by
  have hnear := roundedMantissa_near num hd
  rw [hlast] at hnear
  have hp : (0 : ℚ) < 2 ^ e := by positivity
  have hunits : |(roundedMantissa num den : ℚ) - m| * 2 ^ e < 2 ^ e := by
    calc |(roundedMantissa num den : ℚ) - m| * 2 ^ e
        = |dyadic (roundedMantissa num den) e - dyadic m e| := by
          rw [dyadic, dyadic, ← sub_mul, abs_mul, abs_of_pos hp]
      _ ≤ |dyadic (roundedMantissa num den) e - (num : ℚ) / den| +
            |(num : ℚ) / den - dyadic m e| := abs_sub_le _ _ _
      _ < 2 ^ e := by linarith
  have hone : |(roundedMantissa num den : ℚ) - m| < 1 := by
    rwa [mul_lt_iff_lt_one_left hp] at hunits
  have hint : |((roundedMantissa num den : ℤ) - m : ℤ)| < 1 := by exact_mod_cast hone
  have := Int.abs_lt_one_iff.mp hint
  omega

theorem roundedMantissa_of_even (hd : 0 < den) (hlast : lastPlace num den = e) (hm : m % 2 = 0)
    (hlow : dyadic m e - 2 ^ e / 2 ≤ (num : ℚ) / den)
    (hhigh : (num : ℚ) / den ≤ dyadic m e + 2 ^ e / 2) : roundedMantissa num den = m := by
  subst hlast
  exact le_antisymm ((roundedMantissa_le_iff hd hm).mpr hhigh) ((le_roundedMantissa_iff hd hm).mpr hlow)

/-! ## Rounding -/

theorem roundingInterval_pos (hm : m ≠ 0) : 0 < (roundingInterval m e).1 := by
  simp only [roundingInterval]
  split <;> omega

theorem Within.pos (hm : m ≠ 0) (h : Within m e q) : 0 < q := by
  have hlow := @roundingInterval_pos m e hm
  have hpos : 0 < dyadic (roundingInterval m e).1 (e - 2) := by
    rw [dyadic]
    positivity
  rw [Within] at h
  split at h
  · exact hpos.trans_le h.1
  · exact hpos.trans h.1

theorem Within.bounds (h : Within m e q) :
    dyadic (roundingInterval m e).1 (e - 2) ≤ q ∧ q ≤ dyadic m e + 2 ^ e / 2 := by
  rw [Within, dyadic_high] at h
  split at h
  · exact h
  · exact ⟨h.1.le, h.2.le⟩

/-- A number of a normal form stays below the next power of two, and so does its interval. -/
theorem Within.lt_pow (hm : m < 2 ^ 53) (h : Within m e q) : q < 2 ^ (e + 53) := by
  have htop : (2 : ℚ) ^ (e + 53) = 2 ^ 53 * 2 ^ e := by
    rw [zpow_add₀ (by norm_num), mul_comm]
    norm_num
  have hp : (0 : ℚ) < 2 ^ e := by positivity
  have hle : (m : ℚ) + 1 ≤ 2 ^ 53 := by exact_mod_cast hm
  have hbound := h.bounds.2
  rw [dyadic] at hbound
  rw [htop]
  nlinarith

theorem roundedMantissa_within (hd : 0 < den) (hm : m ≠ 0)
    (hlast : lastPlace num den = e) (hne : ¬ (m = 2 ^ 52 ∧ minExponent < e))
    (h : Within m e ((num : ℚ) / den)) : roundedMantissa num den = m := by
  rw [Within, roundingInterval_low hm hne, dyadic_high] at h
  by_cases heven : m % 2 = 0
  · rw [if_pos heven] at h
    exact roundedMantissa_of_even hd hlast heven h.1 h.2
  · rw [if_neg heven] at h
    refine roundedMantissa_of_near hd hlast (abs_sub_lt_iff.mpr ⟨?_, ?_⟩)
    · linarith [h.2]
    · linarith [h.1]

theorem pack_of_form (s : Bool) (hf : isNormalForm m e = true) : pack s m e = finite s m e hf := by
  obtain ⟨hm, -, he⟩ := isNormalForm_bounds hf
  have hne : m ≠ 2 ^ 53 := by omega
  have hmax : ¬ maxExponent < e := by omega
  simp only [pack, Nat.pow_eq, if_neg hne, if_neg hmax, ofParts, dif_pos hf]

/-- A number of a full mantissa is at least so large as the bottom of its binade, and so is what is in its
interval, but for the bottom itself. -/
theorem Within.pow_le (hf : isNormalForm m e = true) (hm : m ≠ 0)
    (hne : ¬ (m = 2 ^ 52 ∧ minExponent < e)) (h : Within m e q) :
    e = minExponent ∨ (2 : ℚ) ^ (e + 52) ≤ q := by
  rcases (isNormalForm_iff.mp hf).2 with he | ⟨hfull, hmin, -⟩
  · exact .inl he
  · rcases eq_or_lt_of_le hmin with he | he
    · exact .inl he.symm
    · have hbound := h.bounds.1
      rw [roundingInterval_low hm hne, dyadic] at hbound
      have hp : (0 : ℚ) < 2 ^ e := by positivity
      have hle : (2 : ℚ) ^ 52 + 1 ≤ m := by
        exact_mod_cast lt_of_le_of_ne hfull fun heq => hne ⟨heq.symm, he⟩
      have hbottom : (2 : ℚ) ^ (e + 52) = 2 ^ 52 * 2 ^ e := by
        rw [zpow_add₀ (by norm_num), mul_comm]
        norm_num
      right
      rw [hbottom]
      nlinarith

/-- Just below the bottom of a binade, where places are half as wide, a fraction is rounded up to it. -/
theorem ofRatio_below (s : Bool) (hf : isNormalForm (2 ^ 52) e = true) (he : minExponent < e)
    (hn : 0 < num) (hd : 0 < den)
    (hlow : dyadic (2 ^ 53) (e - 1) - 2 ^ (e - 1) / 2 ≤ (num : ℚ) / den)
    (hhigh : (num : ℚ) / den < dyadic (2 ^ 52) e) : ofRatio s num den = finite s (2 ^ 52) e hf := by
  have hp : (0 : ℚ) < 2 ^ (e - 1) := by positivity
  have hlast : lastPlace num den = e - 1 := by
    refine lastPlace_of_bounds hn hd (by omega) (.inr ?_) ?_
    · refine le_trans ?_ hlow
      have hbottom : (2 : ℚ) ^ (e - 1 + 52) = 2 ^ 52 * 2 ^ (e - 1) := by
        rw [zpow_add₀ (by norm_num), mul_comm]
        norm_num
      rw [hbottom, dyadic]
      push_cast
      linarith
    · refine hhigh.trans_le (le_of_eq ?_)
      rw [dyadic_two_pow]
      congr 1
      push_cast
      ring
  have hfull : roundedMantissa num den = 2 ^ 53 := by
    refine le_antisymm (roundedMantissa_le_top hn hd) ?_
    rw [le_roundedMantissa_iff hd (by norm_num), hlast]
    exact hlow
  have hmax := (isNormalForm_bounds hf).2.2
  have hnext : ¬ maxExponent < e - 1 + 1 := by omega
  rw [ofRatio_eq s hn, hfull, hlast, ← pack_of_form s hf]
  simp [pack]

/-- Every fraction in the interval of a number is rounded to it. -/
theorem ofRatio_within (s : Bool) (hf : isNormalForm m e = true) (hm : m ≠ 0) (hd : 0 < den)
    (h : Within m e ((num : ℚ) / den)) : ofRatio s num den = finite s m e hf := by
  obtain ⟨hmlt, hmin, -⟩ := isNormalForm_bounds hf
  have hn : 0 < num := by
    have hpos := h.pos hm
    have hdq : (0 : ℚ) < den := by exact_mod_cast hd
    have hnq : (0 : ℚ) < num := by
      rw [lt_div_iff₀ hdq, zero_mul] at hpos
      exact hpos
    exact_mod_cast hnq
  have htop := h.lt_pow hmlt
  by_cases hne : m = 2 ^ 52 ∧ minExponent < e
  · obtain ⟨rfl, he⟩ := hne
    by_cases hbelow : (num : ℚ) / den < dyadic (2 ^ 52) e
    · have hlow := h.bounds.1
      rw [roundingInterval_low_bottom he] at hlow
      exact ofRatio_below s hf he hn hd hlow hbelow
    · have hlast : lastPlace num den = e := by
        refine lastPlace_of_bounds hn hd hmin (.inr (le_trans (le_of_eq ?_) (not_lt.mp hbelow))) htop
        rw [dyadic_two_pow, add_comm]
        rfl
      have hp : (0 : ℚ) < 2 ^ e := by positivity
      have hround : roundedMantissa num den = 2 ^ 52 := by
        refine roundedMantissa_of_even hd hlast (by norm_num) ?_ h.bounds.2
        linarith [not_lt.mp hbelow]
      rw [ofRatio_eq s hn, hround, hlast, pack_of_form s hf]
  · have hlast := lastPlace_of_bounds hn hd hmin (h.pow_le hf hm hne) htop
    rw [ofRatio_eq s hn, roundedMantissa_within hd hm hlast hne h, hlast, pack_of_form s hf]

/-! ## Scaled numbers -/

/-- Neither is a number in an interval cut off. -/
theorem Within.digits {c : ℕ} {k : ℤ} (hf : isNormalForm m e = true) (hm : m ≠ 0)
    (h : Within m e (Decimal.scaled c k)) :
    c ≠ 0 ∧ ¬ 400 < (digitCount c : ℤ) + k ∧ ¬ (digitCount c : ℤ) + k < -400 := by
  obtain ⟨hmlt, hmin, hmax⟩ := isNormalForm_bounds hf
  have hc : c ≠ 0 := by
    rintro rfl
    have hpos := h.pos hm
    simp [Decimal.scaled] at hpos
  obtain ⟨hlow, htop⟩ := scaled_bounds k hc
  refine ⟨hc, ?_, ?_⟩
  · intro hd
    have hbig : (10 : ℚ) ^ (400 : ℤ) ≤ Decimal.scaled c k :=
      (zpow_le_zpow_right₀ (by norm_num) (by omega)).trans hlow
    have hsmall := two_pow_lt_ten_pow (n := e + 53) (by simp only [maxExponent] at hmax; omega)
    exact absurd ((h.lt_pow hmlt).trans hsmall) (not_lt.mpr hbig)
  · intro hd
    have hsmall : Decimal.scaled c k < 10 ^ (-400 : ℤ) :=
      htop.trans_le (zpow_le_zpow_right₀ (by norm_num) (by omega))
    have hpow : (10 : ℚ) ^ (-400 : ℤ) < 2 ^ (e - 2) := by
      rw [zpow_neg, ← neg_neg (e - 2), zpow_neg]
      refine inv_strictAnti₀ (by positivity) (two_pow_lt_ten_pow ?_)
      simp only [minExponent] at hmin
      omega
    have hquarter : (2 : ℚ) ^ (e - 2) ≤ dyadic (roundingInterval m e).1 (e - 2) := by
      have hone : (1 : ℚ) ≤ ((roundingInterval m e).1 : ℕ) := by
        exact_mod_cast roundingInterval_pos hm
      rw [dyadic]
      exact le_mul_of_one_le_left (by positivity) hone
    exact absurd (hpow.trans_le (hquarter.trans h.bounds.1)) (not_lt.mpr hsmall.le)

theorem ofScaled_within (s : Bool) {c : ℕ} {k : ℤ} (hf : isNormalForm m e = true) (hm : m ≠ 0)
    (h : Within m e (Decimal.scaled c k)) : ofScaled s c k = finite s m e hf := by
  obtain ⟨hc, htop, hlow⟩ := h.digits hf hm
  obtain ⟨n, d, hd, hv, ho⟩ := scaled_fraction s c k
  have hlength : (Nat.toDigits 10 c).length = digitCount c := rfl
  simp only [ofScaled, hlength, if_neg hc, if_neg htop, if_neg hlow, ho]
  exact ofRatio_within s hf hm hd (hv ▸ h)

end Binary64

end EntityStore
