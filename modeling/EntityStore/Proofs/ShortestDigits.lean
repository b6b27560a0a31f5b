import EntityStore.Proofs.RoundingInterval

/-! # The shortest digits of a number

The digits that are found for a number are in the interval of fractions that are rounded to it, so
reading them gives the number back. Seventeen digits are always enough, and of a whole number with at
most sixteen digits none is lost.
-/
namespace EntityStore

namespace Binary64

variable {m d : ℕ} {e p : ℤ} {q : ℚ}

/-! ## Points of a grid -/

section Grid

/-- The part of a power that is a natural number. -/
def upper (b : ℕ) (t : ℤ) : ℕ := if 0 ≤ t then Nat.pow b t.toNat else 1

/-- The denominator of a power. -/
def lower (b : ℕ) (t : ℤ) : ℕ := if 0 ≤ t then 1 else Nat.pow b (-t).toNat

theorem lower_pos {b : ℕ} (hb : 0 < b) (t : ℤ) : 0 < lower b t := by
  rw [lower]
  split
  · exact Nat.one_pos
  · exact Nat.pow_pos hb

theorem upper_eq {b : ℕ} (hb : 0 < b) (t : ℤ) : (upper b t : ℚ) = (b : ℚ) ^ t * lower b t := by
  have hne : (b : ℚ) ≠ 0 := by exact_mod_cast hb.ne'
  rcases le_or_gt 0 t with ht | ht
  · lift t to ℕ using ht
    simp [upper, lower]
  · obtain ⟨n, rfl⟩ := Int.exists_eq_neg_ofNat ht.le
    have hn : ¬ 0 ≤ -(n : ℤ) := not_le.mpr ht
    rw [upper, lower, if_neg hn, if_neg hn, neg_neg, Int.toNat_natCast, zpow_neg, zpow_natCast,
      Nat.pow_eq, Nat.cast_pow, inv_mul_cancel₀ (pow_ne_zero n hne), Nat.cast_one]

/-- A step of the grid, in a unit in which a quarter of the last place is a natural number too. -/
def gridStep (e p : ℤ) : ℕ := lower 2 (e - 2) * upper 10 p

def gridQuarter (e p : ℤ) : ℕ := upper 2 (e - 2) * lower 10 p

theorem grid_unit (e p : ℤ) : ∃ k : ℚ, 0 < k ∧ (gridStep e p : ℚ) = 10 ^ p * k ∧
    (gridQuarter e p : ℚ) = 2 ^ (e - 2) * k := by
  have h2 := lower_pos (b := 2) (by decide) (e - 2)
  have h10 := lower_pos (b := 10) (by decide) p
  refine ⟨lower 2 (e - 2) * lower 10 p, by positivity, ?_, ?_⟩
  · rw [gridStep, Nat.cast_mul, upper_eq (by decide)]
    push_cast
    ring
  · rw [gridQuarter, Nat.cast_mul, upper_eq (by decide)]
    push_cast
    ring

/-- Whether a point of the grid reads back as a number. -/
def onGrid (m : ℕ) (e p : ℤ) (d : ℕ) : Bool :=
  let (low, high, closed) := roundingInterval m e
  let x := d * gridStep e p
  if closed then low * gridQuarter e p ≤ x && x ≤ high * gridQuarter e p
  else low * gridQuarter e p < x && x < high * gridQuarter e p

/-- A point of the grid is compared with a number of quarters of the last place. -/
theorem quarters_le_iff (k d : ℕ) (e p : ℤ) :
    (k * gridQuarter e p ≤ d * gridStep e p ↔ dyadic k (e - 2) ≤ Decimal.scaled d p) ∧
      (d * gridStep e p ≤ k * gridQuarter e p ↔ Decimal.scaled d p ≤ dyadic k (e - 2)) := by
  obtain ⟨u, hu, hs, hq⟩ := grid_unit e p
  have hleft : ((k * gridQuarter e p : ℕ) : ℚ) = dyadic k (e - 2) * u := by
    rw [Nat.cast_mul, hq, dyadic, mul_assoc]
  have hright : ((d * gridStep e p : ℕ) : ℚ) = Decimal.scaled d p * u := by
    rw [Nat.cast_mul, hs, Decimal.scaled, mul_assoc]
  constructor
  · rw [← Nat.cast_le (α := ℚ), hleft, hright, mul_le_mul_iff_left₀ hu]
  · rw [← Nat.cast_le (α := ℚ), hleft, hright, mul_le_mul_iff_left₀ hu]

theorem onGrid_iff : onGrid m e p d = true ↔ Within m e (Decimal.scaled d p) := by
  have hlow := quarters_le_iff (roundingInterval m e).1 d e p
  have hhigh := quarters_le_iff (4 * m + 2) d e p
  have hform : roundingInterval m e = ((roundingInterval m e).1, 4 * m + 2, decide (m % 2 = 0)) := rfl
  rw [onGrid, hform, Within]
  by_cases heven : m % 2 = 0
  · simp only [heven, decide_true, if_true, Bool.and_eq_true, decide_eq_true_eq, hlow.1, hhigh.2]
  · simp only [heven, decide_false, Bool.false_eq_true, if_false, Bool.and_eq_true,
      decide_eq_true_eq, ← not_le, hlow.2, hhigh.1]

/-- The point of the grid next below a number. -/
def gridBelow (m : ℕ) (e p : ℤ) : ℕ := 4 * m * gridQuarter e p / gridStep e p

theorem gridStep_pos (e p : ℤ) : 0 < gridStep e p := by
  obtain ⟨u, hu, hs, -⟩ := grid_unit e p
  have hpos : (0 : ℚ) < gridStep e p := by
    rw [hs]
    positivity
  exact_mod_cast hpos

theorem gridBelow_spec (m : ℕ) (e p : ℤ) : Decimal.scaled (gridBelow m e p) p ≤ dyadic m e ∧
    dyadic m e < Decimal.scaled (gridBelow m e p + 1) p := by
  have hle : gridBelow m e p * gridStep e p ≤ 4 * m * gridQuarter e p := Nat.div_mul_le_self _ _
  have hlt : ¬ (gridBelow m e p + 1) * gridStep e p ≤ 4 * m * gridQuarter e p := by
    rw [not_le, mul_comm (gridBelow m e p + 1)]
    exact Nat.lt_mul_div_succ _ (gridStep_pos e p)
  rw [(quarters_le_iff (4 * m) _ e p).2, dyadic_quarters] at hle hlt
  exact ⟨hle, not_le.mp hlt⟩

theorem nearestOnGrid_eq (m : ℕ) (e p : ℤ) : nearestOnGrid m e p =
    match onGrid m e p (gridBelow m e p), onGrid m e p (gridBelow m e p + 1) with
    | true, true =>
      let down := 4 * m * gridQuarter e p - gridBelow m e p * gridStep e p
      let up := (gridBelow m e p + 1) * gridStep e p - 4 * m * gridQuarter e p
      if down < up then some (gridBelow m e p)
      else if up < down then some (gridBelow m e p + 1)
      else if gridBelow m e p % 2 = 0 then some (gridBelow m e p) else some (gridBelow m e p + 1)
    | true, false => some (gridBelow m e p)
    | false, true => some (gridBelow m e p + 1)
    | false, false => none := by
  have hstep : gridStep e p = if 0 ≤ p then
      (if 0 ≤ e - 2 then 1 else Nat.pow 2 (-(e - 2)).toNat) * Nat.pow 10 p.toNat
      else if 0 ≤ e - 2 then 1 else Nat.pow 2 (-(e - 2)).toNat := by
    rw [gridStep, lower, upper]
    split <;> simp
  have hquarter : gridQuarter e p = if 0 ≤ p then
      if 0 ≤ e - 2 then Nat.pow 2 (e - 2).toNat else 1
      else (if 0 ≤ e - 2 then Nat.pow 2 (e - 2).toNat else 1) * Nat.pow 10 (-p).toNat := by
    rw [gridQuarter, lower, upper]
    split <;> simp
  unfold nearestOnGrid gridBelow onGrid
  rewrite [hstep, hquarter]
  rfl

end Grid

/-! ## The nearest point -/

/-- What lies between two fractions of an interval is in it. -/
theorem Within.convex {a b : ℚ} (ha : Within m e a) (hb : Within m e b) (haq : a ≤ q) (hqb : q ≤ b) :
    Within m e q := by
  rw [Within] at ha hb ⊢
  by_cases heven : m % 2 = 0
  · rw [if_pos heven] at ha hb ⊢
    exact ⟨ha.1.trans haq, hqb.trans hb.2⟩
  · rw [if_neg heven] at ha hb ⊢
    exact ⟨ha.1.trans_le haq, hqb.trans_lt hb.2⟩

/-- The inner part of an interval, without its ends. -/
theorem within_of_lt (hlow : dyadic (roundingInterval m e).1 (e - 2) < q)
    (hhigh : q < dyadic m e + 2 ^ e / 2) : Within m e q := by
  rw [Within, dyadic_high]
  split
  · exact ⟨hlow.le, hhigh.le⟩
  · exact ⟨hlow, hhigh⟩

/-- The lower end of an interval is a quarter of the last place away, at least. -/
theorem low_le (hm : m ≠ 0) : dyadic (roundingInterval m e).1 (e - 2) ≤ dyadic m e - 2 ^ e / 4 := by
  have hle : (roundingInterval m e).1 + 1 ≤ 4 * m := by
    simp only [roundingInterval]
    split <;> omega
  have hcast : ((roundingInterval m e).1 : ℚ) + 1 ≤ 4 * m := by exact_mod_cast hle
  have hp : (0 : ℚ) < 2 ^ e := by positivity
  rw [dyadic, dyadic, zpow_sub₀ (by norm_num)]
  nlinarith

theorem within_self (hm : m ≠ 0) : Within m e (dyadic m e) := by
  have hp : (0 : ℚ) < 2 ^ e := by positivity
  have hlow := low_le (e := e) hm
  exact within_of_lt (by linarith) (by linarith)

/-- The nearest point is one of the two next to the number, and in the interval. -/
theorem nearestOnGrid_spec (h : nearestOnGrid m e p = some d) :
    (d = gridBelow m e p ∨ d = gridBelow m e p + 1) ∧ onGrid m e p d = true := by
  rw [nearestOnGrid_eq] at h
  cases hbelow : onGrid m e p (gridBelow m e p) with
  | false =>
    cases habove : onGrid m e p (gridBelow m e p + 1) with
    | false => simp [hbelow, habove] at h
    | true =>
      simp only [hbelow, habove, Option.some.injEq] at h
      exact ⟨.inr h.symm, h ▸ habove⟩
  | true =>
    cases habove : onGrid m e p (gridBelow m e p + 1) with
    | false =>
      simp only [hbelow, habove, Option.some.injEq] at h
      exact ⟨.inl h.symm, h ▸ hbelow⟩
    | true =>
      simp only [hbelow, habove] at h
      split_ifs at h
      · exact ⟨.inl (Option.some.inj h).symm, Option.some.inj h ▸ hbelow⟩
      · exact ⟨.inr (Option.some.inj h).symm, Option.some.inj h ▸ habove⟩
      · exact ⟨.inl (Option.some.inj h).symm, Option.some.inj h ▸ hbelow⟩
      · exact ⟨.inr (Option.some.inj h).symm, Option.some.inj h ▸ habove⟩

theorem nearestOnGrid_within (h : nearestOnGrid m e p = some d) : Within m e (Decimal.scaled d p) :=
  onGrid_iff.mp (nearestOnGrid_spec h).2

/-- Where a point of the grid is in the interval, one next to the number is. -/
theorem nearestOnGrid_some (hm : m ≠ 0) (h : Within m e (Decimal.scaled d p)) :
    ∃ k, nearestOnGrid m e p = some k := by
  obtain ⟨hlow, hhigh⟩ := gridBelow_spec m e p
  have hpow : (0 : ℚ) < 10 ^ p := by positivity
  have hmono : ∀ {a b : ℕ}, a ≤ b → Decimal.scaled a p ≤ Decimal.scaled b p := fun hab =>
    mul_le_mul_of_nonneg_right (by exact_mod_cast hab) hpow.le
  have hnext : onGrid m e p (gridBelow m e p) = true ∨
      onGrid m e p (gridBelow m e p + 1) = true := by
    rw [onGrid_iff, onGrid_iff]
    rcases Nat.lt_or_ge (gridBelow m e p) d with hd | hd
    · exact .inr ((within_self hm).convex h hhigh.le (hmono hd))
    · exact .inl (h.convex (within_self hm) (hmono hd) hlow)
  rw [nearestOnGrid_eq]
  cases hbelow : onGrid m e p (gridBelow m e p) <;>
    cases habove : onGrid m e p (gridBelow m e p + 1) <;> simp_all
  split_ifs <;> simp

/-- A number that is a point of the grid is its own nearest point. -/
theorem nearestOnGrid_exact (hm : m ≠ 0) (h : Decimal.scaled d p = dyadic m e) :
    nearestOnGrid m e p = some d := by
  have hvalue : d * gridStep e p = 4 * m * gridQuarter e p := by
    refine le_antisymm ?_ ?_
    · exact (quarters_le_iff (4 * m) d e p).2.mpr (by rw [dyadic_quarters, h])
    · exact (quarters_le_iff (4 * m) d e p).1.mpr (by rw [dyadic_quarters, h])
  have hstep := gridStep_pos e p
  have hbelow : gridBelow m e p = d := by
    rw [gridBelow, ← hvalue, Nat.mul_div_cancel _ hstep]
  have hself : onGrid m e p d = true := onGrid_iff.mpr (h ▸ within_self hm)
  have hup : 0 < (d + 1) * gridStep e p - d * gridStep e p := by
    rw [Nat.add_mul, Nat.one_mul, Nat.add_sub_cancel_left]
    exact hstep
  rw [nearestOnGrid_eq, hbelow, hself]
  cases onGrid m e p (d + 1) with
  | false => rfl
  | true => simp only [← hvalue, Nat.sub_self, if_pos hup]

theorem dropTrailingZeros_scaled (fuel d : ℕ) (p : ℤ) :
    Decimal.scaled (dropTrailingZeros fuel d p).1 (dropTrailingZeros fuel d p).2 =
      Decimal.scaled d p := by
  induction fuel generalizing d p with
  | zero => rfl
  | succ fuel ih =>
    rw [dropTrailingZeros]
    by_cases hd : d ≠ 0 ∧ d % 10 = 0
    · rw [if_pos hd, ih, ← Nat.cast_one, ← Decimal.scaled_mul_pow, pow_one,
        Nat.div_mul_cancel (Nat.dvd_of_mod_eq_zero hd.2)]
    · rw [if_neg hd]

theorem le_dropTrailingZeros (fuel d : ℕ) (p : ℤ) : p ≤ (dropTrailingZeros fuel d p).2 := by
  induction fuel generalizing d p with
  | zero => exact le_rfl
  | succ fuel ih =>
    rw [dropTrailingZeros]
    split
    · exact (Int.le_add_one le_rfl).trans (ih _ _)
    · exact le_rfl

/-! ## The decimal logarithm -/

theorem zpow_le_of_root {x y : ℚ} {i j : ℤ} (k : ℕ) (hk : k ≠ 0) (hx : 0 < x) (hy : 0 < y)
    (h : x ^ (k * i) ≤ y ^ (k * j)) : x ^ i ≤ y ^ j := by
  rw [mul_comm, zpow_mul, mul_comm, zpow_mul, zpow_natCast, zpow_natCast] at h
  exact (pow_le_pow_iff_left₀ (by positivity) (by positivity) hk).mp h

theorem ten_le_two {c b : ℤ} (hpos : 196 * c ≤ 59 * b) (hneg : 93 * c ≤ 28 * b) :
    (10 : ℚ) ^ c ≤ 2 ^ b := by
  rcases le_total 0 b with hb | hb
  · refine zpow_le_of_root 196 (by decide) (by norm_num) (by norm_num) ?_
    lift b to ℕ using hb
    calc (10 : ℚ) ^ (((196 : ℕ) : ℤ) * c) ≤ 10 ^ (((59 * b : ℕ)) : ℤ) :=
          zpow_le_zpow_right₀ (by norm_num) (by push_cast; exact hpos)
      _ = (10 ^ 59) ^ b := by rw [zpow_natCast, pow_mul]
      _ ≤ (2 ^ 196) ^ b := pow_le_pow_left₀ (by positivity) (by norm_num) b
      _ = 2 ^ (((196 : ℕ) : ℤ) * b) := by rw [← pow_mul, ← zpow_natCast, Nat.cast_mul]
  · refine zpow_le_of_root 93 (by decide) (by norm_num) (by norm_num) ?_
    obtain ⟨n, rfl⟩ := Int.exists_eq_neg_ofNat hb
    calc (10 : ℚ) ^ (((93 : ℕ) : ℤ) * c) ≤ 10 ^ (-((28 * n : ℕ) : ℤ)) :=
          zpow_le_zpow_right₀ (by norm_num) (by push_cast; omega)
      _ = ((10 ^ 28) ^ n)⁻¹ := by rw [zpow_neg, zpow_natCast, pow_mul]
      _ ≤ ((2 ^ 93) ^ n)⁻¹ :=
        inv_anti₀ (by positivity) (pow_le_pow_left₀ (by positivity) (by norm_num) n)
      _ = 2 ^ (((93 : ℕ) : ℤ) * -(n : ℤ)) := by
        rw [← pow_mul, mul_neg, zpow_neg, ← Nat.cast_mul, zpow_natCast]

theorem two_le_ten {c b : ℤ} (hpos : 59 * b ≤ 196 * c) (hneg : 28 * b ≤ 93 * c) :
    (2 : ℚ) ^ b ≤ 10 ^ c := by
  have h := ten_le_two (c := -c) (b := -b) (by omega) (by omega)
  rw [zpow_neg, zpow_neg] at h
  exact (inv_le_inv₀ (by positivity) (by positivity)).mp h

/-- The decimal logarithm of a fraction of moderate size: the estimate is no more than two off. -/
theorem floorLog10_spec {num den : ℕ} (hn : 0 < num) (hd : 0 < den) (hlow : -4096 ≤ binade num den)
    (hhigh : binade num den ≤ 4096) : (10 : ℚ) ^ floorLog10 num den ≤ (num : ℚ) / den ∧
      (num : ℚ) / den < 10 ^ (floorLog10 num den + 1) := by
  obtain ⟨hb1, hb2⟩ := binade_spec hn hd
  have hestimate := Int.mul_fdiv_add_fmod (binade num den * 1233) 4096
  have hrest := Int.fmod_nonneg_of_pos (binade num den * 1233) (b := 4096) (by decide)
  have hrest' := Int.fmod_lt_of_pos (binade num den * 1233) (b := 4096) (by decide)
  set c := Int.fdiv (binade num den * 1233) 4096 with hc
  have hbottom : (10 : ℚ) ^ (c - 2) ≤ (num : ℚ) / den := (ten_le_two (by omega) (by omega)).trans hb1
  have htop : (num : ℚ) / den < 10 ^ (c + 2 + 1) :=
    hb2.trans_le (two_le_ten (by omega) (by omega))
  have hreached : ∀ k : ℤ, (if 0 ≤ k then decide (den * Nat.pow 10 k.toNat ≤ num)
      else decide (den ≤ num * Nat.pow 10 (-k).toNat)) =
        decide ((10 : ℚ) ^ k ≤ (num : ℚ) / den) := by
    intro k
    have h := @pow_le_ratio_iff 10 num den (by decide) hd k
    rw [Nat.cast_ofNat] at h
    rw [← Bool.decide_congr h]
    split <;> rfl
  have hbelow : ∀ {k j : ℤ}, ¬ (10 : ℚ) ^ j ≤ (num : ℚ) / den → k + 1 = j →
      (num : ℚ) / den < 10 ^ (k + 1) := fun h hk => hk ▸ not_le.mp h
  -- the first of the five that is reached, where the one before it is not
  simp only [floorLog10, ← hc, hreached, List.find?]
  by_cases h2 : (10 : ℚ) ^ (c + 2) ≤ (num : ℚ) / den
  · simp only [h2, decide_true, Option.getD_some]
    exact ⟨trivial, htop⟩
  by_cases h1 : (10 : ℚ) ^ (c + 1) ≤ (num : ℚ) / den
  · simp only [h2, h1, decide_true, decide_false, Option.getD_some]
    exact ⟨trivial, hbelow h2 (by ring)⟩
  by_cases h0 : (10 : ℚ) ^ c ≤ (num : ℚ) / den
  · simp only [h2, h1, h0, decide_true, decide_false, Option.getD_some]
    exact ⟨trivial, hbelow h1 rfl⟩
  by_cases hm : (10 : ℚ) ^ (c - 1) ≤ (num : ℚ) / den
  · simp only [h2, h1, h0, hm, decide_true, decide_false, Option.getD_some]
    exact ⟨trivial, hbelow h0 (by ring)⟩
  · simp only [h2, h1, h0, hm, hbottom, decide_true, decide_false, Option.getD_some]
    exact ⟨trivial, hbelow hm (by ring)⟩

/-! ## The shortest digits -/

section Shortest

theorem dyadic_fraction (m : ℕ) (e : ℤ) :
    ((m * upper 2 e : ℕ) : ℚ) / (lower 2 e : ℕ) = dyadic m e := by
  have hpos : (0 : ℚ) < lower 2 e := by exact_mod_cast lower_pos (by decide) e
  rw [div_eq_iff hpos.ne', Nat.cast_mul, upper_eq (by decide), dyadic]
  push_cast
  ring

/-- The place of the first digit of a number. -/
def leadingPlace (m : ℕ) (e : ℤ) : ℤ := floorLog10 (m * upper 2 e) (lower 2 e)

theorem leadingPlace_spec (hf : isNormalForm m e = true) (hm : m ≠ 0) :
    (10 : ℚ) ^ leadingPlace m e ≤ dyadic m e ∧ dyadic m e < 10 ^ (leadingPlace m e + 1) := by
  obtain ⟨hlt, hmin, hmax⟩ := isNormalForm_bounds hf
  have hden : 0 < lower 2 e := lower_pos (by decide) e
  have hnum : 0 < m * upper 2 e := by
    refine Nat.pos_of_ne_zero fun hzero => ?_
    have hvalue := dyadic_fraction m e
    have hpos : (0 : ℚ) < dyadic m e := (within_self (e := e) hm).pos hm
    rw [hzero, Nat.cast_zero, zero_div] at hvalue
    exact hpos.ne hvalue
  obtain ⟨hb1, hb2⟩ := binade_spec hnum hden
  rw [dyadic_fraction] at hb1 hb2
  have htop := (within_self (e := e) hm).lt_pow hlt
  have hone : (2 : ℚ) ^ e ≤ dyadic m e :=
    le_mul_of_one_le_left (by positivity) (by exact_mod_cast Nat.one_le_iff_ne_zero.mpr hm)
  have hhigh := (zpow_lt_zpow_iff_right₀ (by norm_num : (1 : ℚ) < 2)).mp (hb1.trans_lt htop)
  have hlow := (zpow_lt_zpow_iff_right₀ (by norm_num : (1 : ℚ) < 2)).mp (hone.trans_lt hb2)
  simp only [minExponent, maxExponent] at hmin hmax
  rw [leadingPlace, ← dyadic_fraction]
  exact floorLog10_spec hnum hden (by omega) (by omega)

/-- A grid of seventeen digits is finer than the interval is wide. -/
theorem within_seventeen (hf : isNormalForm m e = true) (hm : m ≠ 0) :
    ∃ d, Within m e (Decimal.scaled d (leadingPlace m e - 16)) := by
  obtain ⟨hlow, hhigh⟩ := gridBelow_spec m e (leadingPlace m e - 16)
  set d := gridBelow m e (leadingPlace m e - 16)
  set step : ℚ := 10 ^ (leadingPlace m e - 16) with hstep
  have hnext : Decimal.scaled (d + 1) (leadingPlace m e - 16) =
      Decimal.scaled d (leadingPlace m e - 16) + step := by
    rw [Decimal.scaled, Decimal.scaled, ← hstep]
    push_cast
    ring
  have hfine : step * 10 ^ 16 ≤ m * 2 ^ e := by
    have hlead := (leadingPlace_spec hf hm).1
    have hpow : step * 10 ^ 16 = 10 ^ leadingPlace m e := by
      rw [hstep, zpow_sub₀ (by norm_num)]
      norm_num
    rw [hpow]
    exact hlead
  have hp : (0 : ℚ) < 2 ^ e := by positivity
  by_cases hbottom : m = 2 ^ 52 ∧ minExponent < e
  · have hhalf : step < 2 ^ e / 2 := by
      rw [hbottom.1] at hfine
      push_cast at hfine
      linarith
    refine ⟨d + 1, within_of_lt (lt_of_le_of_lt (low_le hm) ?_) ?_⟩
    · linarith
    · linarith
  · have hwhole : step < 2 ^ e := by
      have hmq : (m : ℚ) + 1 ≤ 2 ^ 53 := by exact_mod_cast (isNormalForm_bounds hf).1
      nlinarith
    -- the number is less than a step from both its neighbours, so one of them is near
    by_cases hnear : dyadic m e - 2 ^ e / 2 < Decimal.scaled d (leadingPlace m e - 16)
    · refine ⟨d, within_of_lt (by rwa [roundingInterval_low hm hbottom]) ?_⟩
      linarith
    · refine ⟨d + 1, within_of_lt ?_ ?_⟩
      · rw [roundingInterval_low hm hbottom]
        linarith
      · linarith

/-- The digits are those of the first grid that has a point in the interval. -/
theorem shortest_of_point (hm : m ≠ 0) {n : ℕ} (hn : n < 17)
    (h : Within m e (Decimal.scaled d (leadingPlace m e - n))) :
    ∃ i ≤ n, ∃ k, nearestOnGrid m e (leadingPlace m e - i) = some k ∧
      shortest m e = dropTrailingZeros 18 k (leadingPlace m e - i) := by
  set hit : ℕ → Option (ℕ × ℤ) := fun i => (nearestOnGrid m e (leadingPlace m e - i)).map
    fun k => dropTrailingZeros 18 k (leadingPlace m e - i) with hhit
  have hshortest : shortest m e = ((List.range 17).findSome? hit).getD (m, e) := by
    have hfraction : (if 0 ≤ e then (m * Nat.pow 2 e.toNat, 1) else (m, Nat.pow 2 (-e).toNat)) =
        (m * upper 2 e, lower 2 e) := by
      rw [upper, lower]
      split <;> simp
    simp only [shortest, if_neg hm, hfraction]
    rfl
  obtain ⟨k, hk⟩ := nearestOnGrid_some hm h
  have hsome : hit n ≠ none := by simp [hhit, hk]
  cases hfind : (List.range 17).findSome? hit with
  | none => exact absurd (List.findSome?_eq_none_iff.mp hfind n (List.mem_range.mpr hn)) hsome
  | some found =>
    obtain ⟨before, i, after, hsplit, hi, hbefore⟩ := List.findSome?_eq_some_iff.mp hfind
    obtain ⟨k', hk', hfound⟩ := Option.map_eq_some_iff.mp hi
    refine ⟨i, ?_, k', hk', ?_⟩
    · have hsorted : (before ++ i :: after).Pairwise (· < ·) := hsplit ▸ List.pairwise_lt_range
      have hmem : n ∈ before ++ i :: after := hsplit ▸ List.mem_range.mpr hn
      rcases List.mem_append.mp hmem with hmem | hmem
      · exact absurd (hbefore n hmem) hsome
      · rcases List.mem_cons.mp hmem with rfl | hmem
        · exact le_rfl
        · exact ((List.pairwise_cons.mp (List.pairwise_append.mp hsorted).2.1).1 n hmem).le
    · rw [hshortest, hfind, Option.getD_some, hfound]

/-- The shortest digits of a number read back as it. -/
theorem shortest_within (hf : isNormalForm m e = true) (hm : m ≠ 0) :
    Within m e (Decimal.scaled (shortest m e).1 (shortest m e).2) := by
  obtain ⟨d, hd⟩ := within_seventeen hf hm
  obtain ⟨i, -, k, hk, hs⟩ := shortest_of_point hm (n := 16) (by decide) (by exact_mod_cast hd)
  rw [hs, dropTrailingZeros_scaled]
  exact nearestOnGrid_within hk

/-- The shortest digits begin at the place at which the number does, or above. -/
theorem leading_le (hf : isNormalForm m e = true) (hm : m ≠ 0) :
    (10 : ℚ) ^ leadingPlace m e ≤ Decimal.scaled (shortest m e).1 (shortest m e).2 := by
  obtain ⟨d, hd⟩ := within_seventeen hf hm
  obtain ⟨i, -, k, hk, hs⟩ := shortest_of_point hm (n := 16) (by decide) (by exact_mod_cast hd)
  have hlow := (leadingPlace_spec hf hm).1.trans_lt (gridBelow_spec m e (leadingPlace m e - i)).2
  have hpow : (10 : ℚ) ^ leadingPlace m e = ((10 ^ i : ℕ) : ℚ) * 10 ^ (leadingPlace m e - i) := by
    rw [Nat.cast_pow, ← zpow_natCast, Nat.cast_ofNat, ← zpow_add₀ (by norm_num), add_sub_cancel]
  rw [hpow, Decimal.scaled, mul_lt_mul_iff_left₀ (by positivity), Nat.cast_lt] at hlow
  have hle : 10 ^ i ≤ k := by
    rcases (nearestOnGrid_spec hk).1 with h | h <;> omega
  rw [hs, dropTrailingZeros_scaled, hpow, Decimal.scaled]
  exact mul_le_mul_of_nonneg_right (by exact_mod_cast hle) (by positivity)

/-! ## Whole numbers -/

theorem Within.near (h : Within m e q) : |q - dyadic m e| ≤ 2 ^ e / 2 := by
  obtain ⟨hlow, hhigh⟩ := h.bounds
  have hcast : (4 * m : ℚ) - 2 ≤ (roundingInterval m e).1 := by
    have hle : 4 * m ≤ (roundingInterval m e).1 + 2 := by
      simp only [roundingInterval]
      split <;> omega
    have : (4 * m : ℚ) ≤ (roundingInterval m e).1 + 2 := by exact_mod_cast hle
    linarith
  have hp : (0 : ℚ) < 2 ^ e := by positivity
  rw [abs_le]
  rw [dyadic, zpow_sub₀ (by norm_num)] at hlow
  rw [dyadic] at hhigh ⊢
  constructor
  · nlinarith
  · linarith

/-- A point of a grid of tens in the interval of a whole number with at most sixteen digits is that
number. -/
theorem Within.whole {N : ℕ} (hf : isNormalForm m e = true) (hv : dyadic m e = N)
    (hN : N < 10 ^ 16) {p : ℕ} (h : Within m e (Decimal.scaled d (p + 1 : ℕ))) :
    d * 10 ^ (p + 1) = N := by
  have hnear := h.near
  have hscaled : Decimal.scaled d (p + 1 : ℕ) = (d * 10 ^ (p + 1) : ℕ) := by
    rw [Decimal.scaled, zpow_natCast]
    push_cast
    rfl
  rw [hscaled, hv] at hnear
  have he : e ≤ 1 := by
    rcases (isNormalForm_iff.mp hf).2 with rfl | ⟨hfull, -, -⟩
    · decide
    · by_contra hlt
      have hpow : (2 : ℚ) ^ (2 : ℤ) ≤ 2 ^ e := zpow_le_zpow_right₀ (by norm_num) (by omega)
      have hfullq : (2 : ℚ) ^ 52 ≤ m := by exact_mod_cast hfull
      have hNq : (N : ℚ) < 10 ^ 16 := by exact_mod_cast hN
      rw [← hv, dyadic] at hNq
      norm_num at hpow
      nlinarith
  rcases eq_or_lt_of_le he with rfl | he
  · -- both are even, and no more than one apart
    have hm2 : 2 * m = N := by
      rw [dyadic] at hv
      have : ((2 * m : ℕ) : ℚ) = N := by
        push_cast
        linarith
      exact_mod_cast this
    have hone : |((d * 10 ^ (p + 1) : ℕ) : ℤ) - N| ≤ 1 := by
      have : |((d * 10 ^ (p + 1) : ℕ) : ℚ) - N| ≤ 1 := by simpa using hnear
      exact_mod_cast this
    have hten : d * 10 ^ (p + 1) = 2 * (d * 10 ^ p * 5) := by ring
    rw [abs_le] at hone
    omega
  · have hhalf : |((d * 10 ^ (p + 1) : ℕ) : ℚ) - N| < 1 := by
      have hpow : (2 : ℚ) ^ e ≤ 2 ^ (0 : ℤ) := zpow_le_zpow_right₀ (by norm_num) (by omega)
      rw [zpow_zero] at hpow
      linarith
    have hint : |((d * 10 ^ (p + 1) : ℕ) : ℤ) - N| < 1 := by exact_mod_cast hhalf
    have := Int.abs_lt_one_iff.mp hint
    omega

/-- A whole number with at most sixteen digits has just these. -/
theorem shortest_whole {N : ℕ} (hf : isNormalForm m e = true) (hm : m ≠ 0) (hv : dyadic m e = N)
    (hN : N < 10 ^ 16) : 0 ≤ (shortest m e).2 ∧
      Decimal.scaled (shortest m e).1 (shortest m e).2 = N := by
  obtain ⟨hlow, hhigh⟩ := leadingPlace_spec hf hm
  have hself : Decimal.scaled N 0 = dyadic m e := by
    rw [hv, Decimal.scaled, zpow_zero, mul_one]
  have hplace : 0 ≤ leadingPlace m e := by
    have hone : (10 : ℚ) ^ (0 : ℤ) ≤ dyadic m e := by
      have hpos := (within_self (e := e) hm).pos hm
      rw [hv] at hpos ⊢
      rw [zpow_zero]
      exact_mod_cast hpos
    have := (zpow_lt_zpow_iff_right₀ (by norm_num : (1 : ℚ) < 10)).mp (hone.trans_lt hhigh)
    omega
  have hdigits : leadingPlace m e < 16 := by
    have hNq : dyadic m e < 10 ^ (16 : ℤ) := by
      rw [hv]
      exact_mod_cast hN
    exact (zpow_lt_zpow_iff_right₀ (by norm_num : (1 : ℚ) < 10)).mp (hlow.trans_lt hNq)
  obtain ⟨n, hn⟩ := Int.eq_ofNat_of_zero_le hplace
  obtain ⟨i, hi, k, hk, hs⟩ := shortest_of_point (d := N) hm (n := n) (by omega)
    (by rw [hn, sub_self, hself]; exact within_self hm)
  obtain ⟨p, hp⟩ := Int.eq_ofNat_of_zero_le (show 0 ≤ leadingPlace m e - i by omega)
  rw [hs, dropTrailingZeros_scaled]
  refine ⟨le_trans (by omega) (le_dropTrailingZeros ..), ?_⟩
  rw [hp] at hk ⊢
  cases p with
  | zero =>
    rw [Nat.cast_zero, nearestOnGrid_exact hm hself, Option.some.injEq] at hk
    rw [← hk, Nat.cast_zero, hself, hv]
  | succ p =>
    have hwhole := (nearestOnGrid_within hk).whole hf hv hN
    rw [Decimal.scaled, zpow_natCast, ← hwhole]
    push_cast
    rfl

end Shortest

end Binary64

end EntityStore
