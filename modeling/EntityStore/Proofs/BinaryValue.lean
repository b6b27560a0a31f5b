import EntityStore.Proofs.HalfEven
import Mathlib.Algebra.Order.Field.Power
import Mathlib.Data.Rat.Lemmas
import Mathlib.Tactic.FieldSimp
import Mathlib.Tactic.Linarith
import Mathlib.Tactic.Positivity
import Mathlib.Tactic.Ring

/-! # The value of a binary number

A finite number is its mantissa times a power of two. Rounding a fraction finds the nearest multiple
of the last place of its binade, so a fraction that is such a multiple is not changed.
-/
namespace EntityStore

namespace Binary64

/-- The fraction that a mantissa and an exponent stand for. -/
def dyadic (m : ℕ) (e : ℤ) : ℚ := m * 2 ^ e

theorem dyadic_nonneg (m : ℕ) (e : ℤ) : 0 ≤ dyadic m e := by
  unfold dyadic
  positivity

theorem dyadic_two_pow (k : ℕ) (e : ℤ) : dyadic (2 ^ k) e = 2 ^ (k + e) := by
  rw [dyadic, zpow_add₀ (by norm_num), zpow_natCast]
  push_cast
  rfl

theorem isNormalForm_iff {m : ℕ} {e : ℤ} :
    isNormalForm m e = true ↔
      m < 2 ^ 53 ∧ (e = minExponent ∨ 2 ^ 52 ≤ m ∧ minExponent ≤ e ∧ e ≤ maxExponent) := by
  simp [isNormalForm, and_assoc]

theorem isNormalForm_bounds {m : ℕ} {e : ℤ} (h : isNormalForm m e = true) :
    m < 2 ^ 53 ∧ minExponent ≤ e ∧ e ≤ maxExponent := by
  obtain ⟨hm, he⟩ := isNormalForm_iff.mp h
  refine ⟨hm, ?_, ?_⟩
  · rcases he with rfl | ⟨-, h, -⟩
    · exact le_rfl
    · exact h
  · rcases he with rfl | ⟨-, -, h⟩
    · decide
    · exact h

theorem ratio?_finite (s : Bool) (m : ℕ) (e : ℤ) (h : isNormalForm m e = true) :
    ∃ n d, (finite s m e h).ratio? = some (n, d) ∧ 0 < d ∧
      (n : ℚ) / d = if s then -dyadic m e else dyadic m e := by
  rcases le_or_gt 0 e with he | he
  · lift e to ℕ using he
    refine ⟨_, _, by simp only [ratio?, if_pos (Int.natCast_nonneg e)]; rfl, Nat.one_pos, ?_⟩
    cases s <;> simp [dyadic]
  · obtain ⟨n, rfl⟩ := Int.exists_eq_neg_ofNat he.le
    refine ⟨_, _, by simp only [ratio?, if_neg (not_le.mpr he)]; rfl, by simp, ?_⟩
    cases s <;> simp [dyadic, zpow_neg, div_eq_mul_inv]

theorem toRat?_finite (s : Bool) (m : ℕ) (e : ℤ) (h : isNormalForm m e = true) :
    (finite s m e h).toRat? = some (if s then -dyadic m e else dyadic m e) := by
  obtain ⟨n, d, hr, -, hv⟩ := ratio?_finite s m e h
  simp only [toRat?, hr, Option.map_some, ← hv, Rat.mkRat_eq_div]

/-! ## Binades -/

/-- The quotient of two powers of two below two numbers is within a factor of two of theirs. -/
private theorem log2_bounds {num den : ℕ} (hn : 0 < num) (hd : 0 < den) :
    (2 : ℚ) ^ ((num.log2 : ℤ) - den.log2 - 1) < (num : ℚ) / den ∧
      (num : ℚ) / den < 2 ^ ((num.log2 : ℤ) - den.log2 + 1) := by
  have hn1 : (2 : ℚ) ^ num.log2 ≤ num := by exact_mod_cast Nat.log2_self_le hn.ne'
  have hn2 : (num : ℚ) < 2 ^ (num.log2 + 1) := by exact_mod_cast Nat.lt_log2_self
  have hd1 : (2 : ℚ) ^ den.log2 ≤ den := by exact_mod_cast Nat.log2_self_le hd.ne'
  have hd2 : (den : ℚ) < 2 ^ (den.log2 + 1) := by exact_mod_cast Nat.lt_log2_self
  have hdq : (0 : ℚ) < den := by exact_mod_cast hd
  constructor
  · rw [lt_div_iff₀ hdq]
    calc (2 : ℚ) ^ ((num.log2 : ℤ) - den.log2 - 1) * den
        < 2 ^ ((num.log2 : ℤ) - den.log2 - 1) * 2 ^ (den.log2 + 1) :=
          mul_lt_mul_of_pos_left hd2 (by positivity)
      _ = 2 ^ num.log2 := by
          rw [← zpow_natCast, ← zpow_natCast, ← zpow_add₀ (by norm_num)]
          congr 1
          push_cast
          ring
      _ ≤ num := hn1
  · rw [div_lt_iff₀ hdq]
    calc (num : ℚ) < 2 ^ (num.log2 + 1) := hn2
      _ = 2 ^ ((num.log2 : ℤ) - den.log2 + 1) * 2 ^ den.log2 := by
          rw [← zpow_natCast, ← zpow_natCast, ← zpow_add₀ (by norm_num)]
          congr 1
          push_cast
          ring
      _ ≤ 2 ^ ((num.log2 : ℤ) - den.log2 + 1) * den :=
          mul_le_mul_of_nonneg_left hd1 (by positivity)

/-- A power of a base is compared with a fraction without dividing. -/
theorem pow_le_ratio_iff {b num den : ℕ} (hb : 0 < b) (hd : 0 < den) (t : ℤ) :
    (if 0 ≤ t then den * Nat.pow b t.toNat ≤ num else den ≤ num * Nat.pow b (-t).toNat) ↔
      (b : ℚ) ^ t ≤ (num : ℚ) / den := by
  have hdq : (0 : ℚ) < den := by exact_mod_cast hd
  have hbq : (0 : ℚ) < b := by exact_mod_cast hb
  rw [le_div_iff₀ hdq]
  rcases le_or_gt 0 t with ht | ht
  · lift t to ℕ using ht
    rw [if_pos (Int.natCast_nonneg t), Int.toNat_natCast, zpow_natCast, mul_comm, Nat.pow_eq]
    exact_mod_cast Iff.rfl
  · obtain ⟨n, rfl⟩ := Int.exists_eq_neg_ofNat ht.le
    rw [if_neg (not_le.mpr ht), neg_neg, Int.toNat_natCast, zpow_neg, zpow_natCast,
      inv_mul_le_iff₀ (by positivity), mul_comm, Nat.pow_eq]
    exact_mod_cast Iff.rfl

theorem binade_spec {num den : ℕ} (hn : 0 < num) (hd : 0 < den) :
    (2 : ℚ) ^ binade num den ≤ (num : ℚ) / den ∧ (num : ℚ) / den < 2 ^ (binade num den + 1) := by
  obtain ⟨hl, hu⟩ := log2_bounds hn hd
  have hp := @pow_le_ratio_iff 2 num den (by decide) hd ((num.log2 : ℤ) - den.log2)
  rw [Nat.cast_ofNat] at hp
  unfold binade
  simp only [hp]
  split
  · rename_i h
    exact ⟨h, hu⟩
  · rename_i h
    exact ⟨hl.le, by simpa using not_le.mp h⟩

/-! ## Rounding -/

/-- The exponent of the last place that a fraction is rounded to. -/
def lastPlace (num den : ℕ) : ℤ := max (binade num den - 52) minExponent

/-- The multiple of the last place that a fraction is rounded to. -/
def roundedMantissa (num den : ℕ) : ℕ :=
  if 0 ≤ lastPlace num den then
    roundHalfEven num (den * Nat.pow 2 (lastPlace num den).toNat)
  else roundHalfEven (num * Nat.pow 2 (-lastPlace num den).toNat) den

theorem ofRatio_eq (s : Bool) {num den : ℕ} (hn : 0 < num) :
    ofRatio s num den = pack s (roundedMantissa num den) (lastPlace num den) := by
  rw [ofRatio, if_neg hn.ne']
  rfl

/-- The mantissa is the rounding of a fraction of naturals that is as many last places. -/
theorem roundedMantissa_eq (num : ℕ) {den : ℕ} (hd : 0 < den) :
    ∃ a b : ℕ, 0 < b ∧ roundedMantissa num den = roundHalfEven a b ∧
      (num : ℚ) / den = (a : ℚ) / b * 2 ^ lastPlace num den := by
  have hdq : (den : ℚ) ≠ 0 := by exact_mod_cast hd.ne'
  rcases le_or_gt 0 (lastPlace num den) with he | he
  · refine ⟨_, _, ?_, by rw [roundedMantissa, if_pos he], ?_⟩
    · simpa using hd
    · obtain ⟨n, hn⟩ := Int.eq_ofNat_of_zero_le he
      simp only [hn, Nat.pow_eq, Int.toNat_natCast, zpow_natCast]
      push_cast
      field_simp
  · refine ⟨_, _, hd, by rw [roundedMantissa, if_neg (not_le.mpr he)], ?_⟩
    obtain ⟨n, hn⟩ := Int.exists_eq_neg_ofNat he.le
    simp only [hn, Nat.pow_eq, neg_neg, Int.toNat_natCast, zpow_neg, zpow_natCast]
    push_cast
    field_simp

variable {num den : ℕ}

theorem le_roundedMantissa (hd : 0 < den) {k : ℕ}
    (h : dyadic k (lastPlace num den) ≤ (num : ℚ) / den) : k ≤ roundedMantissa num den := by
  obtain ⟨a, b, hb, hr, hq⟩ := roundedMantissa_eq num hd
  have hbq : (0 : ℚ) < b := by exact_mod_cast hb
  rw [hr]
  refine le_roundHalfEven_of_le hb ?_
  rw [hq, dyadic, mul_le_mul_iff_left₀ (by positivity), le_div_iff₀ hbq] at h
  exact_mod_cast h

theorem roundedMantissa_le (hd : 0 < den) {k : ℕ}
    (h : (num : ℚ) / den ≤ dyadic k (lastPlace num den)) : roundedMantissa num den ≤ k := by
  obtain ⟨a, b, hb, hr, hq⟩ := roundedMantissa_eq num hd
  have hbq : (0 : ℚ) < b := by exact_mod_cast hb
  rw [hr]
  refine roundHalfEven_le_of_le hb ?_
  rw [hq, dyadic, mul_le_mul_iff_left₀ (by positivity), div_le_iff₀ hbq] at h
  exact_mod_cast h

/-- Rounding moves a fraction by at most half of the last place. -/
theorem roundedMantissa_near (num : ℕ) (hd : 0 < den) :
    |dyadic (roundedMantissa num den) (lastPlace num den) - (num : ℚ) / den| ≤
      2 ^ lastPlace num den / 2 := by
  obtain ⟨a, b, hb, hr, hq⟩ := roundedMantissa_eq num hd
  have hbq : (0 : ℚ) < b := by exact_mod_cast hb
  have h1 : (2 : ℚ) * (roundHalfEven a b * b) ≤ 2 * a + b := by
    exact_mod_cast roundHalfEven_le a b
  have h2 : (2 : ℚ) * a ≤ 2 * (roundHalfEven a b * b) + b := by
    exact_mod_cast le_roundHalfEven hb
  have hdiff : |(roundHalfEven a b : ℚ) - a / b| ≤ 1 / 2 := by
    rw [abs_sub_le_iff]
    constructor
    · rw [sub_le_iff_le_add, ← sub_le_iff_le_add', le_div_iff₀ hbq]
      linarith
    · rw [sub_le_iff_le_add, div_le_iff₀ hbq]
      linarith
  have hp : (0 : ℚ) < 2 ^ lastPlace num den := by positivity
  rw [hr, hq, dyadic, ← sub_mul, abs_mul, abs_of_pos hp]
  calc |(roundHalfEven a b : ℚ) - a / b| * 2 ^ lastPlace num den
      ≤ 1 / 2 * 2 ^ lastPlace num den := mul_le_mul_of_nonneg_right hdiff (by positivity)
    _ = 2 ^ lastPlace num den / 2 := by ring

theorem roundedMantissa_le_top (hn : 0 < num) (hd : 0 < den) : roundedMantissa num den ≤ 2 ^ 53 := by
  refine roundedMantissa_le hd ((binade_spec hn hd).2.le.trans ?_)
  rw [dyadic_two_pow]
  refine zpow_le_zpow_right₀ (by norm_num) ?_
  unfold lastPlace
  omega

theorem lastPlace_or (hn : 0 < num) (hd : 0 < den) :
    lastPlace num den = minExponent ∨ 2 ^ 52 ≤ roundedMantissa num den := by
  rcases le_or_gt (binade num den - 52) minExponent with h | h
  · exact .inl (max_eq_right h)
  · refine .inr (le_roundedMantissa hd (le_trans (le_of_eq ?_) (binade_spec hn hd).1))
    rw [dyadic_two_pow, lastPlace, max_eq_left h.le]
    congr 1
    omega

/-- A mantissa in range makes a finite number; one at the top moves to the next binade. -/
theorem pack_finite (s : Bool) {m : ℕ} {e : ℤ} (hm : m ≤ 2 ^ 53)
    (hl : e = minExponent ∨ 2 ^ 52 ≤ m) (he : minExponent ≤ e)
    (hh : e < maxExponent ∨ e = maxExponent ∧ m < 2 ^ 53) :
    ∃ m' e' h, pack s m e = finite s m' e' h ∧ dyadic m' e' = dyadic m e := by
  by_cases ht : m = 2 ^ 53
  · have hf : isNormalForm (2 ^ 52) (e + 1) = true := by
      refine isNormalForm_iff.mpr ⟨by norm_num, .inr ⟨le_rfl, by omega, by omega⟩⟩
    refine ⟨2 ^ 52, e + 1, hf, ?_, ?_⟩
    · have hlt : ¬ maxExponent < e + 1 := by omega
      simp only [pack, ht, Nat.pow_eq, if_true, if_neg hlt, ofParts, dif_pos hf]
    · rw [ht, dyadic, dyadic, zpow_add₀ (by norm_num)]
      push_cast
      ring
  · have hf : isNormalForm m e = true := by
      refine isNormalForm_iff.mpr ⟨by omega, ?_⟩
      rcases hl with hl | hl
      · exact .inl hl
      · exact .inr ⟨hl, he, by omega⟩
    refine ⟨m, e, hf, ?_, rfl⟩
    have hlt : ¬ maxExponent < e := by omega
    simp only [pack, Nat.pow_eq, if_neg ht, if_neg hlt, ofParts, dif_pos hf]

theorem ofRatio_finite (s : Bool) (hn : 0 < num) (hd : 0 < den)
    (hh : lastPlace num den < maxExponent ∨
      lastPlace num den = maxExponent ∧ roundedMantissa num den < 2 ^ 53) :
    ∃ m e h, ofRatio s num den = finite s m e h ∧
      dyadic m e = dyadic (roundedMantissa num den) (lastPlace num den) := by
  rw [ofRatio_eq s hn]
  exact pack_finite s (roundedMantissa_le_top hn hd) (lastPlace_or hn hd) (le_max_right _ _) hh

/-- A fraction that is a finite number is not changed. -/
theorem ofRatio_exact (s : Bool) (hn : 0 < num) (hd : 0 < den) {k : ℕ} {e : ℤ}
    (hk : isNormalForm k e = true) (hq : (num : ℚ) / den = dyadic k e) :
    ∃ m e' h, ofRatio s num den = finite s m e' h ∧ dyadic m e' = (num : ℚ) / den := by
  obtain ⟨hk, he, hm⟩ := isNormalForm_bounds hk
  have hp : lastPlace num den ≤ e := by
    have hlt : (2 : ℚ) ^ binade num den < 2 ^ (53 + e) := by
      refine (binade_spec hn hd).1.trans_lt ?_
      rw [hq, dyadic, zpow_add₀ (by norm_num)]
      exact mul_lt_mul_of_pos_right (by exact_mod_cast hk) (by positivity)
    have := (zpow_lt_zpow_iff_right₀ (by norm_num : (1 : ℚ) < 2)).mp hlt
    unfold lastPlace
    omega
  -- a coarser number is a multiple of the last place
  obtain ⟨j, hj⟩ := Int.le.dest hp
  have hv : (num : ℚ) / den = dyadic (k * 2 ^ j) (lastPlace num den) := by
    rw [hq, dyadic, dyadic, ← hj, zpow_add₀ (by norm_num), zpow_natCast]
    push_cast
    ring
  have hr : roundedMantissa num den = k * 2 ^ j :=
    le_antisymm (roundedMantissa_le hd hv.le) (le_roundedMantissa hd hv.ge)
  have htop : k * 2 ^ j < 2 ^ 53 := by
    have hlt : dyadic (k * 2 ^ j) (lastPlace num den) < 2 ^ (53 + lastPlace num den) := by
      rw [← hv]
      refine (binade_spec hn hd).2.trans_le (zpow_le_zpow_right₀ (by norm_num) ?_)
      unfold lastPlace
      omega
    rw [dyadic, zpow_add₀ (by norm_num), mul_lt_mul_iff_left₀ (by positivity)] at hlt
    exact_mod_cast hlt
  obtain ⟨m, e', h, ho, hd'⟩ := ofRatio_finite s hn hd (by rw [hr]; omega)
  exact ⟨m, e', h, ho, by rw [hd', hr, hv]⟩

/-- A fraction of moderate size is rounded to a number that is near in proportion to it. -/
theorem ofRatio_near (s : Bool) (hn : 0 < num) (hd : 0 < den)
    (hl : (2 : ℚ) ^ (-1022 : ℤ) ≤ (num : ℚ) / den) (hh : (num : ℚ) / den < 2 ^ (1023 : ℤ)) :
    ∃ m e h, ofRatio s num den = finite s m e h ∧
      |dyadic m e - (num : ℚ) / den| ≤ (num : ℚ) / den / 2 ^ 53 := by
  obtain ⟨hb1, hb2⟩ := binade_spec hn hd
  have h1 : -1022 < binade num den + 1 :=
    (zpow_lt_zpow_iff_right₀ (by norm_num : (1 : ℚ) < 2)).mp (hl.trans_lt hb2)
  have h2 : binade num den < 1023 :=
    (zpow_lt_zpow_iff_right₀ (by norm_num : (1 : ℚ) < 2)).mp (hb1.trans_lt hh)
  have hp : lastPlace num den = binade num den - 52 := by
    simp only [lastPlace, minExponent]
    omega
  obtain ⟨m, e, h, ho, hv⟩ := ofRatio_finite s hn hd (by simp only [hp, maxExponent]; omega)
  refine ⟨m, e, h, ho, ?_⟩
  rw [hv]
  refine (roundedMantissa_near num hd).trans ?_
  calc (2 : ℚ) ^ lastPlace num den / 2 = 2 ^ binade num den / 2 ^ 53 := by
        rw [hp, zpow_sub₀ (by norm_num), div_div]
        norm_num
    _ ≤ (num : ℚ) / den / 2 ^ 53 := div_le_div_of_nonneg_right hb1 (by positivity)

/-! ## Equal fractions -/

theorem binade_congr {num' den' : ℕ} (hn : 0 < num) (hd : 0 < den) (hn' : 0 < num')
    (hd' : 0 < den') (h : (num : ℚ) / den = (num' : ℚ) / den') :
    binade num den = binade num' den' := by
  obtain ⟨hl, hu⟩ := binade_spec hn hd
  obtain ⟨hl', hu'⟩ := binade_spec hn' hd'
  rw [h] at hl hu
  have h1 := (zpow_lt_zpow_iff_right₀ (by norm_num)).mp (hl.trans_lt hu')
  have h2 := (zpow_lt_zpow_iff_right₀ (by norm_num)).mp (hl'.trans_lt hu)
  omega

/-- The nearest number depends on the value of a fraction alone. -/
theorem ofRatio_congr (s : Bool) {num' den' : ℕ} (hd : 0 < den) (hd' : 0 < den')
    (h : (num : ℚ) / den = (num' : ℚ) / den') : ofRatio s num den = ofRatio s num' den' := by
  have hdq : (den : ℚ) ≠ 0 := by exact_mod_cast hd.ne'
  have hdq' : (den' : ℚ) ≠ 0 := by exact_mod_cast hd'.ne'
  have hcross : num * den' = num' * den := by
    rw [div_eq_div_iff hdq hdq'] at h
    exact_mod_cast h
  rcases Nat.eq_zero_or_pos num with rfl | hn
  · have hn' : num' = 0 := by
      simpa [hd.ne'] using hcross.symm
    rw [hn', ofRatio, ofRatio, if_pos rfl, if_pos rfl]
  · have hn' : 0 < num' := by
      apply Nat.pos_of_ne_zero
      rintro rfl
      rw [Nat.zero_mul] at hcross
      exact absurd hcross (Nat.mul_pos hn hd').ne'
    have hlast : lastPlace num den = lastPlace num' den' := by
      rw [lastPlace, lastPlace, binade_congr hn hd hn' hd' h]
    have hrounded : roundedMantissa num den = roundedMantissa num' den' := by
      simp only [roundedMantissa, hlast, Nat.pow_eq]
      split
      · refine roundHalfEven_congr (by positivity) (by positivity) ?_
        rw [← Nat.mul_assoc, ← Nat.mul_assoc, hcross]
      · refine roundHalfEven_congr hd hd' ?_
        rw [Nat.mul_right_comm, hcross, Nat.mul_right_comm]
    rw [ofRatio_eq s hn, ofRatio_eq s hn', hlast, hrounded]

/-! ## Integers -/

theorem toRat?_signedZero (s : Bool) : (signedZero s).toRat? = some 0 := by
  rw [signedZero, toRat?_finite]
  cases s <;> simp [dyadic]

/-- An integer that is a finite number is not changed. -/
theorem ofInt_exact {x : Binary64} {n : ℤ} (h : x.toRat? = some (n : ℚ)) :
    (ofInt n).toRat? = some (n : ℚ) := by
  cases x with
  | infinity s => cases h
  | nan => cases h
  | finite s m e hf =>
    rw [toRat?_finite, Option.some.injEq] at h
    rcases eq_or_ne n 0 with rfl | hn
    · simp [ofInt, ofRatio, toRat?_signedZero]
    · have habs : (n.natAbs : ℚ) / (1 : ℕ) = dyadic m e := by
        have ha : |(n : ℚ)| = dyadic m e := by
          rw [← h]
          cases s <;> simp [abs_of_nonneg (dyadic_nonneg m e)]
        rw [← ha, Nat.cast_natAbs]
        simp
      obtain ⟨m', e', h', ho, hv⟩ := ofRatio_exact (decide (n < 0))
        (Int.natAbs_pos.mpr hn) Nat.one_pos hf habs
      rw [ofInt, ho, toRat?_finite, hv]
      rcases lt_or_gt_of_ne hn with hneg | hpos
      · have : (n.natAbs : ℚ) = -n := by
          rw [Nat.cast_natAbs, abs_of_neg hneg]
          simp
        simp [hneg, this]
      · have : (n.natAbs : ℚ) = n := by
          rw [Nat.cast_natAbs, abs_of_pos hpos]
        simp [not_lt.mpr hpos.le, this]

end Binary64

end EntityStore
