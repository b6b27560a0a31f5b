import EntityStore.Proofs.Quantity

/-! # The nearest binary number

A number is laid down in a binary column as the binary number nearest to it. Where the number is a
moderate count of units in some decimal place, rounding to that place finds it again.
-/
namespace EntityStore

namespace Binary64

/-! ## Rounding never loses a number -/

theorem pack_infinity (s : Bool) {m : ℕ} {e : ℤ}
    (h : maxExponent < e ∨ e = maxExponent ∧ m = 2 ^ 53) : pack s m e = infinity s := by
  by_cases hm : m = 2 ^ 53
  · have he : maxExponent < e + 1 := by omega
    simp only [pack, hm, Nat.pow_eq, if_true, if_pos he]
  · have he : maxExponent < e := by omega
    simp only [pack, Nat.pow_eq, if_neg hm, if_pos he]

theorem ofRatio_ne_nan (s : Bool) (num : ℕ) {den : ℕ} (hd : 0 < den) : ofRatio s num den ≠ nan := by
  rcases Nat.eq_zero_or_pos num with rfl | hn
  · simp [ofRatio, signedZero]
  · have htop := roundedMantissa_le_top hn hd
    by_cases hh : lastPlace num den < maxExponent ∨
        lastPlace num den = maxExponent ∧ roundedMantissa num den < 2 ^ 53
    · obtain ⟨m, e, h, ho, -⟩ := ofRatio_finite s hn hd hh
      simp [ho]
    · rw [ofRatio_eq s hn, pack_infinity s (by omega)]
      simp

theorem ofScaled_ne_nan (s : Bool) (c : ℕ) (e : ℤ) : ofScaled s c e ≠ nan := by
  simp only [ofScaled]
  split_ifs
  · simp [signedZero]
  · simp
  · simp [signedZero]
  · exact ofRatio_ne_nan _ _ Nat.one_pos
  · exact ofRatio_ne_nan _ _ (Nat.pow_pos (by decide))

/-! ## Units of a decimal place -/

theorem fixedUnits_of_near {places m k : ℕ} {e : ℤ}
    (h : |dyadic m e * 10 ^ places - k| < 1 / 2) : fixedUnits places m e = k := by
  obtain ⟨h1, h2⟩ := abs_sub_lt_iff.mp h
  rcases le_or_gt 0 e with he | he
  · lift e to ℕ using he
    have hv : dyadic m e * 10 ^ places = (m * 2 ^ e * 10 ^ places : ℕ) := by
      rw [dyadic, zpow_natCast]
      push_cast
      rfl
    rw [hv] at h1 h2
    simp only [fixedUnits, Int.natCast_nonneg, if_true, Int.toNat_natCast, Nat.pow_eq]
    have hle : m * 2 ^ e * 10 ^ places < k + 1 := by
      have : ((m * 2 ^ e * 10 ^ places : ℕ) : ℚ) < (k + 1 : ℕ) := by
        push_cast at h1 ⊢
        linarith
      exact_mod_cast this
    have hge : k < m * 2 ^ e * 10 ^ places + 1 := by
      have : (k : ℚ) < (m * 2 ^ e * 10 ^ places + 1 : ℕ) := by
        push_cast at h2 ⊢
        linarith
      exact_mod_cast this
    omega
  · obtain ⟨n, rfl⟩ := Int.exists_eq_neg_ofNat he.le
    have h2n : (0 : ℚ) < 2 ^ n := by positivity
    have hv : dyadic m (-n) * 10 ^ places * 2 ^ n = m * 10 ^ places := by
      rw [dyadic, zpow_neg, zpow_natCast]
      field_simp
    rw [fixedUnits, if_neg (not_le.mpr he), neg_neg, Int.toNat_natCast, Nat.pow_eq, Nat.pow_eq]
    refine roundHalfEven_of_near ?_ ?_
    · have : (2 : ℚ) * (m * 10 ^ places) < 2 * (k * 2 ^ n) + 2 ^ n := by
        rw [← hv]
        nlinarith
      exact_mod_cast this
    · have : (2 : ℚ) * (k * 2 ^ n) < 2 * (m * 10 ^ places) + 2 ^ n := by
        rw [← hv]
        nlinarith
      exact_mod_cast this

/-- A whole number is rounded to itself. -/
theorem rounded?_of_integer {x : Binary64} {n : ℤ} (h : x.toRat? = some (n : ℚ)) (places : ℕ) :
    x.rounded? places = some (.ratio n) := by
  cases x with
  | infinity s => cases h
  | nan => cases h
  | finite s m e hf =>
    rw [toRat?_finite, Option.some.injEq] at h
    have habs : dyadic m e = n.natAbs := by
      rw [Nat.cast_natAbs, Int.cast_abs, ← h]
      cases s <;> simp [abs_of_nonneg (dyadic_nonneg m e)]
    have hu : fixedUnits places m e = n.natAbs * 10 ^ places := by
      apply fixedUnits_of_near
      rw [habs]
      simp
    have hs : Decimal.scaled (fixedUnits places m e) (-(places : ℤ)) = dyadic m e := by
      rw [hu, Decimal.scaled_mul_pow, habs]
      simp [Decimal.scaled]
    simp only [rounded?, hs, h]

/-! ## Scaled numbers -/

theorem scaled_bounds {c : ℕ} (e : ℤ) (hc : c ≠ 0) :
    (10 : ℚ) ^ ((digitCount c : ℤ) + e - 1) ≤ Decimal.scaled c e ∧
      Decimal.scaled c e < 10 ^ ((digitCount c : ℤ) + e) := by
  have hp := digitCount_pos c
  have hle : 10 ^ (digitCount c - 1) ≤ c := pow_le_of_lt_digitCount hc (by omega)
  have hlt : (c : ℚ) < 10 ^ digitCount c := by exact_mod_cast lt_pow_digitCount c
  have hsub : (digitCount c : ℤ) + e - 1 = ((digitCount c - 1 : ℕ) : ℤ) + e := by omega
  constructor
  · rw [hsub, zpow_add₀ (by norm_num), zpow_natCast]
    exact mul_le_mul_of_nonneg_right (by exact_mod_cast hle) (by positivity)
  · rw [zpow_add₀ (by norm_num), zpow_natCast]
    exact mul_lt_mul_of_pos_right hlt (by positivity)

/-- A scaled number as a fraction of naturals. -/
theorem scaled_fraction (s : Bool) (c : ℕ) (e : ℤ) : ∃ num den : ℕ, 0 < den ∧
    (num : ℚ) / den = Decimal.scaled c e ∧
    (if 0 ≤ e then ofRatio s (c * Nat.pow 10 e.toNat) 1 else ofRatio s c (Nat.pow 10 (-e).toNat)) =
      ofRatio s num den := by
  rcases le_or_gt 0 e with he | he
  · lift e to ℕ using he
    exact ⟨c * 10 ^ e, 1, Nat.one_pos, by simp [Decimal.scaled], by simp⟩
  · obtain ⟨n, rfl⟩ := Int.exists_eq_neg_ofNat he.le
    refine ⟨c, 10 ^ n, by positivity, by simp [Decimal.scaled, zpow_neg, div_eq_mul_inv], ?_⟩
    rw [if_neg (not_le.mpr he), neg_neg, Int.toNat_natCast, Nat.pow_eq]

/-- The nearest number depends on the value of a scaled number alone. -/
theorem ofScaled_congr (s : Bool) {c c' : ℕ} {e e' : ℤ}
    (h : Decimal.scaled c e = Decimal.scaled c' e') : ofScaled s c e = ofScaled s c' e' := by
  have hzero : ∀ (k : ℕ) (f : ℤ), Decimal.scaled k f = 0 ↔ k = 0 := by
    intro k f
    simp [Decimal.scaled, zpow_ne_zero]
  by_cases hc : c = 0
  · have hc' : c' = 0 := (hzero c' e').mp (h ▸ (hzero c e).mpr hc)
    rw [ofScaled, ofScaled, if_pos hc, if_pos hc']
  · have hc' : c' ≠ 0 := fun hc' => hc ((hzero c e).mp (h ▸ (hzero c' e').mpr hc'))
    obtain ⟨hl, hu⟩ := scaled_bounds e hc
    obtain ⟨hl', hu'⟩ := scaled_bounds e' hc'
    rw [h] at hl hu
    have h1 := (zpow_lt_zpow_iff_right₀ (by norm_num)).mp (hl.trans_lt hu')
    have h2 := (zpow_lt_zpow_iff_right₀ (by norm_num)).mp (hl'.trans_lt hu)
    have hdigits : (digitCount c : ℤ) + e = digitCount c' + e' := by omega
    obtain ⟨n, d, hd, hv, ho⟩ := scaled_fraction s c e
    obtain ⟨n', d', hd', hv', ho'⟩ := scaled_fraction s c' e'
    have hsame := ofRatio_congr s hd hd' (hv.trans (h.trans hv'.symm))
    have hlength : ∀ k, (Nat.toDigits 10 k).length = digitCount k := fun _ => rfl
    simp only [ofScaled, if_neg hc, if_neg hc', hlength, hdigits, ho, ho', hsame]

/-! ## Numbers of moderate size -/

theorem two_pow_lt_ten_pow {n : ℤ} (h : n < 1200) : (2 : ℚ) ^ n < 10 ^ (400 : ℤ) := by
  calc (2 : ℚ) ^ n < 2 ^ (1200 : ℤ) := zpow_lt_zpow_right₀ (by norm_num) h
    _ = (2 ^ 3) ^ 400 := by rw [zpow_ofNat, ← pow_mul]
    _ ≤ 10 ^ 400 := pow_le_pow_left₀ (by norm_num) (by norm_num) _
    _ = 10 ^ (400 : ℤ) := (zpow_ofNat 10 400).symm

/-- The digits of a number of moderate size, counted from the point, are not cut off. -/
theorem digits_bounds {c : ℕ} {e : ℤ} (hc : c ≠ 0) (hl : (2 : ℚ) ^ (-1022 : ℤ) ≤ Decimal.scaled c e)
    (hh : Decimal.scaled c e < 2 ^ (1023 : ℤ)) :
    ¬ 400 < (digitCount c : ℤ) + e ∧ ¬ (digitCount c : ℤ) + e < -400 := by
  obtain ⟨hlow, htop⟩ := scaled_bounds e hc
  constructor
  · intro hd
    have hbig : (10 : ℚ) ^ (400 : ℤ) ≤ Decimal.scaled c e :=
      (zpow_le_zpow_right₀ (by norm_num) (by omega)).trans hlow
    exact absurd ((two_pow_lt_ten_pow (by norm_num)).trans_le hbig) hh.not_gt
  · intro hd
    have hsmall : Decimal.scaled c e < 10 ^ (-400 : ℤ) :=
      htop.trans_le (zpow_le_zpow_right₀ (by norm_num) (by omega))
    have hpow : (10 : ℚ) ^ (-400 : ℤ) < 2 ^ (-1022 : ℤ) := by
      rw [zpow_neg, zpow_neg]
      exact inv_strictAnti₀ (by positivity) (two_pow_lt_ten_pow (by norm_num))
    exact absurd (hsmall.trans hpow) hl.not_gt

theorem ofScaled_near (s : Bool) {c : ℕ} {e : ℤ} (hl : (2 : ℚ) ^ (-1022 : ℤ) ≤ Decimal.scaled c e)
    (hh : Decimal.scaled c e < 2 ^ (1023 : ℤ)) :
    ∃ m e' h, ofScaled s c e = finite s m e' h ∧
      |dyadic m e' - Decimal.scaled c e| ≤ Decimal.scaled c e / 2 ^ 53 := by
  have hc : c ≠ 0 := by
    rintro rfl
    have : (0 : ℚ) < 2 ^ (-1022 : ℤ) := by positivity
    simp only [Decimal.scaled, Nat.cast_zero, zero_mul] at hl
    linarith
  have hdc : (Nat.toDigits 10 c).length = digitCount c := rfl
  obtain ⟨htop, hlow⟩ := digits_bounds hc hl hh
  simp only [ofScaled, hdc, if_neg hc, if_neg htop, if_neg hlow]
  split
  · rename_i he
    lift e to ℕ using he
    have hv : ((c * 10 ^ e : ℕ) : ℚ) / (1 : ℕ) = Decimal.scaled c e := by
      simp [Decimal.scaled]
    have hn : 0 < c * 10 ^ e := by positivity
    obtain ⟨m, e', h, ho, hd⟩ := ofRatio_near s hn Nat.one_pos (by rwa [hv]) (by rwa [hv])
    rw [hv] at hd
    exact ⟨m, e', h, ho, hd⟩
  · rename_i he
    obtain ⟨n, rfl⟩ := Int.exists_eq_neg_ofNat (not_le.mp he).le
    have hv : (c : ℚ) / (10 ^ n : ℕ) = Decimal.scaled c (-n) := by
      simp [Decimal.scaled, zpow_neg, div_eq_mul_inv]
    obtain ⟨m, e', h, ho, hd⟩ := ofRatio_near s (Nat.pos_of_ne_zero hc)
      (show 0 < 10 ^ n by positivity) (by rwa [hv]) (by rwa [hv])
    rw [hv] at hd
    refine ⟨m, e', h, ?_, hd⟩
    rw [neg_neg, Int.toNat_natCast]
    exact ho

end Binary64

end EntityStore
