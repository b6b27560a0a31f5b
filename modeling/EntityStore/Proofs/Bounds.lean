import EntityStore.Proofs.Answering
import EntityStore.Proofs.CellOrder
import EntityStore.Proofs.Nearest

/-! # Numbers and their bounds

A number and a bound are compared by what they stand for: a bound is a fraction, or lies beyond all of
them on one side, or is no number. The comparison of a decimal number builds no power of ten that it
does not need, and still decides by the exact values. So a number passes the bounds of a field exactly
if none of them excludes it.
-/
namespace EntityStore

open Database

/-! ## Comparing decimal numbers -/

namespace Decimal

variable {c num den : ℕ} {e : ℤ}

/-- A fraction that a comparison with small decimal numbers may take for granted. -/
def Moderate (num den : ℕ) : Prop := num = 0 ∨ (10 : ℚ) ^ (-400 : ℤ) ≤ (num : ℚ) / den

/-- Fractions compare as naturals that both are a multiple of. -/
theorem compares_across {a b k : ℚ} {x y : ℕ} (hk : 0 < k) (hx : (x : ℚ) = a * k)
    (hy : (y : ℚ) = b * k) : (Ord.compare x y).Compares a b := by
  have h := compare_compares x y
  cases ho : Ord.compare x y with
  | lt =>
    rw [ho] at h
    have hlt : (x : ℚ) < y := by exact_mod_cast h
    rw [hx, hy] at hlt
    exact lt_of_mul_lt_mul_right hlt hk.le
  | eq =>
    rw [ho] at h
    have heq : (x : ℚ) = y := by exact_mod_cast h
    rw [hx, hy] at heq
    exact mul_right_cancel₀ hk.ne' heq
  | gt =>
    rw [ho] at h
    have hlt : (y : ℚ) < x := by exact_mod_cast h
    rw [hx, hy] at hlt
    exact lt_of_mul_lt_mul_right hlt hk.le

/-- A fraction has no more digits before the point than its whole part. -/
theorem fraction_lt_pow (hd : 0 < den) : (num : ℚ) / den < 10 ^ digitCount (num / den) := by
  have hdq : (0 : ℚ) < den := by exact_mod_cast hd
  have hfloor : num < (num / den + 1) * den := by
    have := Nat.lt_div_mul_add (a := num) hd
    ring_nf at this ⊢
    omega
  have hdigits : num / den + 1 ≤ 10 ^ digitCount (num / den) := lt_pow_digitCount _
  rw [div_lt_iff₀ hdq]
  exact_mod_cast hfloor.trans_le (Nat.mul_le_mul_right den hdigits)

/-- The comparison of products, where no bound on the digits decides. -/
theorem products_compare (hd : 0 < den) :
    (if 0 ≤ e then Ord.compare (c * 10 ^ e.toNat * den) num
      else Ord.compare (c * den) (num * 10 ^ e.natAbs)).Compares (scaled c e) ((num : ℚ) / den) := by
  have hdq : (0 : ℚ) < den := by exact_mod_cast hd
  split
  · rename_i he
    lift e to ℕ using he
    refine compares_across hdq ?_ (div_mul_cancel₀ _ hdq.ne').symm
    simp [scaled]
  · rename_i he
    obtain ⟨n, rfl⟩ := Int.exists_eq_neg_ofNat (not_le.mp he).le
    have hpow : (0 : ℚ) < 10 ^ n := by positivity
    refine compares_across (mul_pos hdq hpow) ?_ ?_
    · simp only [scaled, zpow_neg, zpow_natCast]
      push_cast
      field_simp
    · simp only [Int.natAbs_neg, Int.natAbs_natCast]
      push_cast
      field_simp

/-- A decimal number and a fraction compare by their exact values. -/
theorem compareMagnitude_compares (hd : 0 < den) (h : Moderate num den) :
    (compareMagnitude c e num den).Compares (scaled c e) ((num : ℚ) / den) := by
  have hdq : (0 : ℚ) < den := by exact_mod_cast hd
  unfold compareMagnitude
  by_cases hc : c = 0
  · have hzero : scaled c e = 0 := by simp [scaled, hc]
    rw [if_pos hc, hzero]
    split
    · rename_i hn
      simp [hn, Ordering.Compares]
    · rename_i hn
      have : (0 : ℚ) < num := by exact_mod_cast Nat.pos_of_ne_zero hn
      exact div_pos this hdq
  · obtain ⟨hlow, hhigh⟩ := Binary64.scaled_bounds e hc
    rw [if_neg hc]
    by_cases hn : num = 0
    · have hpos : (0 : ℚ) < 10 ^ ((digitCount c : ℤ) + e - 1) := by positivity
      simpa [hn, Ordering.Compares] using hpos.trans_le hlow
    · rw [if_neg hn]
      dsimp only
      split
      · rename_i htop
        have hpow : (10 : ℚ) ^ digitCount (num / den) ≤ 10 ^ ((digitCount c : ℤ) + e - 1) := by
          rw [← zpow_natCast]
          exact zpow_le_zpow_right₀ (by norm_num) (by omega)
        exact ((fraction_lt_pow hd).trans_le hpow).trans_le hlow
      · split
        · have hpow : (10 : ℚ) ^ ((digitCount c : ℤ) + e) ≤ 10 ^ (-400 : ℤ) :=
            zpow_le_zpow_right₀ (by norm_num) (by omega)
          exact (hhigh.trans_le hpow).trans_le (h.resolve_left hn)
        · exact products_compare hd

/-- The value of a finite decimal number. -/
def signed (s : Bool) (c : ℕ) (e : ℤ) : ℚ := if s then -scaled c e else scaled c e

theorem compares_neg {o : Ordering} {a b : ℚ} (h : o.Compares a b) : o.swap.Compares (-a) (-b) := by
  cases o with
  | lt => exact neg_lt_neg h
  | eq => exact congrArg Neg.neg h
  | gt => exact neg_lt_neg h

/-- A number without a minus before it, or a zero, is its magnitude. -/
theorem signed_of_plain {s : Bool} (h : ¬ (s && c ≠ 0) = true) : signed s c e = scaled c e := by
  cases s with
  | false => rfl
  | true =>
    obtain rfl : c = 0 := by simpa using h
    simp [signed, scaled]

theorem compareRatio_compares {s : Bool} {n : ℤ} (hd : 0 < den) (h : Moderate n.natAbs den) :
    (compareRatio s c e n den).Compares (signed s c e) ((n : ℚ) / den) := by
  have hdq : (0 : ℚ) < den := by exact_mod_cast hd
  have hmag := compareMagnitude_compares (c := c) (e := e) hd h
  have hnonneg := scaled_nonneg c e
  unfold compareRatio
  dsimp only
  split
  · rename_i hminus
    obtain ⟨rfl, hc⟩ : s = true ∧ c ≠ 0 := by simpa using hminus
    have hpos : 0 < scaled c e := hnonneg.lt_of_ne' (by simp [scaled, hc, zpow_ne_zero])
    split
    · rename_i hn
      have : (0 : ℚ) ≤ (n : ℚ) / den := div_nonneg (by exact_mod_cast hn) hdq.le
      exact (neg_lt_zero.mpr hpos).trans_le this
    · rename_i hn
      have habs : -((n.natAbs : ℚ) / den) = (n : ℚ) / den := by
        rw [Nat.cast_natAbs, abs_of_neg (not_le.mp hn)]
        push_cast
        ring
      exact habs ▸ compares_neg hmag
  · rename_i hminus
    rw [signed_of_plain hminus]
    split
    · rename_i hn
      have : (n : ℚ) / den < 0 := div_neg_of_neg_of_pos (by exact_mod_cast hn) hdq
      exact this.trans_le hnonneg
    · rename_i hn
      have habs : (n.natAbs : ℚ) / den = (n : ℚ) / den := by
        rw [Nat.cast_natAbs, abs_of_nonneg (not_lt.mp hn)]
      rwa [habs] at hmag

end Decimal

/-! ## What bounds stand for -/

/-- The quantity lies above a number. -/
def Quantity.Above : Quantity → ℚ → Prop
  | .ratio x, q => q < x
  | .endless negative, _ => negative = false

/-- The quantity lies below a number. -/
def Quantity.Below : Quantity → ℚ → Prop
  | .ratio x, q => x < q
  | .endless negative, _ => negative = true

namespace Binary64

/-- The least positive number is above what a comparison asks for. -/
theorem le_least_dyadic {m : ℕ} {e : ℤ} (hm : 0 < m) (he : minExponent ≤ e) :
    (10 : ℚ) ^ (-400 : ℤ) ≤ dyadic m e := by
  have hm1 : (1 : ℚ) ≤ m := by exact_mod_cast hm
  calc (10 : ℚ) ^ (-400 : ℤ) = ((10 : ℚ) ^ 400)⁻¹ := by rw [zpow_neg, zpow_ofNat]
    _ ≤ ((2 : ℚ) ^ (3 * 400))⁻¹ := by
      refine inv_anti₀ (by positivity) ?_
      rw [pow_mul]
      exact pow_le_pow_left₀ (by norm_num) (by norm_num) _
    _ = (2 : ℚ) ^ (-1200 : ℤ) := by rw [zpow_neg, zpow_ofNat]
    _ ≤ (2 : ℚ) ^ e := zpow_le_zpow_right₀ (by norm_num) (by simp only [minExponent] at he; omega)
    _ ≤ dyadic m e := le_mul_of_one_le_left (by positivity) hm1

/-- A finite number is a fraction that a comparison may take for granted. -/
theorem quantity?_ratio {x : Binary64} {q : ℚ} (h : x.quantity? = some (.ratio q)) :
    ∃ n d, x.ratio? = some (n, d) ∧ 0 < d ∧ (n : ℚ) / d = q ∧ Decimal.Moderate n.natAbs d := by
  cases x with
  | infinity s => cases h
  | nan => cases h
  | finite s m e hf =>
    obtain ⟨n, d, hr, hd, hv⟩ := ratio?_finite s m e hf
    rw [quantity?_finite, Option.some.injEq, Quantity.ratio.injEq] at h
    refine ⟨n, d, hr, hd, hv.trans h, ?_⟩
    have hdq : (0 : ℚ) < d := by exact_mod_cast hd
    have habs : (n.natAbs : ℚ) / d = dyadic m e := by
      have hdyadic := dyadic_nonneg m e
      have hn : |(n : ℚ)| / d = |(n : ℚ) / d| := by rw [abs_div, abs_of_pos hdq]
      rw [Nat.cast_natAbs, Int.cast_abs, hn, hv]
      cases s <;> simp [abs_of_nonneg hdyadic]
    rcases Nat.eq_zero_or_pos m with rfl | hm
    · have hzero : (n.natAbs : ℚ) / d = 0 := by
        rw [habs]
        simp [dyadic]
      exact .inl (by exact_mod_cast (div_eq_zero_iff.mp hzero).resolve_right hdq.ne')
    · exact .inr (habs ▸ le_least_dyadic hm (isNormalForm_bounds hf).2.1)

end Binary64

namespace Bound

/-- The quantity of a bound; a NaN has none. -/
def quantity? (b : Bound) : Option Quantity := b.toValue.quantity?

variable {a b : Bound} {q : ℚ} {x : Quantity}

theorem quantity?_ratio (h : b.quantity? = some (.ratio q)) :
    ∃ n d, b.ratio? = some (n, d) ∧ 0 < d ∧ (n : ℚ) / d = q ∧ Decimal.Moderate n.natAbs d := by
  cases b with
  | int n =>
    obtain rfl : (n : ℚ) = q := by simpa [quantity?, toValue, Value.quantity?] using h
    refine ⟨n, 1, rfl, Nat.one_pos, by simp, ?_⟩
    rcases Nat.eq_zero_or_pos n.natAbs with hn | hn
    · exact .inl hn
    · have hone : (1 : ℚ) ≤ n.natAbs := by exact_mod_cast hn
      have hsmall : (10 : ℚ) ^ (-400 : ℤ) ≤ 1 := zpow_le_one_of_nonpos₀ (by norm_num) (by norm_num)
      exact .inr (by simpa using hsmall.trans hone)
  | float x => exact Binary64.quantity?_ratio h

theorem quantity?_endless {negative : Bool} (h : b.quantity? = some (.endless negative)) :
    b = .float (.infinity negative) := by
  cases b with
  | int n => cases h
  | float x =>
    cases x with
    | infinity s =>
      cases h
      rfl
    | nan => cases h
    | finite s m e hf =>
      simp [quantity?, toValue, Value.quantity?, Binary64.quantity?_finite] at h

theorem quantity?_none_iff : b.quantity? = none ↔ b = .float .nan := by
  cases b with
  | int n => simp [quantity?, toValue, Value.quantity?]
  | float x =>
    cases x with
    | finite s m e hf => simp [quantity?, toValue, Value.quantity?, Binary64.quantity?_finite]
    | infinity s => simp [quantity?, toValue, Value.quantity?, Binary64.quantity?]
    | nan => simp [quantity?, toValue, Value.quantity?, Binary64.quantity?, Binary64.toRat?,
        Binary64.ratio?]

/-- Fractions are ordered as the products across. -/
theorem across_lt_iff {m n : ℤ} {d k : ℕ} (hd : 0 < d) (hk : 0 < k) :
    m * (k : ℤ) < n * (d : ℤ) ↔ (m : ℚ) / d < (n : ℚ) / k := by
  have hdq : (0 : ℚ) < d := by exact_mod_cast hd
  have hkq : (0 : ℚ) < k := by exact_mod_cast hk
  rw [div_lt_div_iff₀ hdq hkq]
  exact_mod_cast Iff.rfl

/-- Every number lies between the two infinities. -/
theorem less_infinity (ha : a.quantity? = some (.ratio q)) (negative : Bool) :
    a.less (.float (.infinity negative)) = !negative ∧
      less (.float (.infinity negative)) a = negative := by
  cases a with
  | int i => simp [less, ratio?, Binary64.ratio?]
  | float y =>
    cases y with
    | finite s i e hf => simp [less, ratio?, Binary64.ratio?]
    | infinity s => cases ha
    | nan => cases ha

theorem less_iff_above (ha : a.quantity? = some (.ratio q)) (hb : b.quantity? = some x) :
    a.less b = true ↔ x.Above q := by
  obtain ⟨m, d, hm, hd, rfl, -⟩ := quantity?_ratio ha
  cases x with
  | ratio y =>
    obtain ⟨n, k, hn, hk, rfl, -⟩ := quantity?_ratio hb
    simp only [less, hm, hn, Quantity.Above, ← across_lt_iff hd hk, decide_eq_true_eq]
  | endless negative =>
    obtain rfl := quantity?_endless hb
    simp [(less_infinity ha negative).1, Quantity.Above]

theorem less_iff_below (ha : a.quantity? = some (.ratio q)) (hb : b.quantity? = some x) :
    b.less a = true ↔ x.Below q := by
  obtain ⟨m, d, hm, hd, rfl, -⟩ := quantity?_ratio ha
  cases x with
  | ratio y =>
    obtain ⟨n, k, hn, hk, rfl, -⟩ := quantity?_ratio hb
    simp only [less, hm, hn, Quantity.Below, ← across_lt_iff hk hd, decide_eq_true_eq]
  | endless negative =>
    obtain rfl := quantity?_endless hb
    simp [(less_infinity ha negative).2, Quantity.Below]

end Bound

/-! ## The order of a value and a bound -/

theorem Quantity.Above.not_below {x : Quantity} {q : ℚ} (h : x.Above q) : ¬ x.Below q := by
  cases x with
  | ratio y => exact fun hb => (lt_trans h hb).false
  | endless negative =>
    intro hb
    have hfalse : negative = false := h
    have htrue : negative = true := hb
    rw [hfalse] at htrue
    cases htrue

namespace Rule

variable {v : Value} {a b : Bound} {q : ℚ} {x : Quantity}

/-- A comparison tells on which side of a number a quantity lies. -/
structure Tells (o : Option Ordering) (x : Quantity) (q : ℚ) : Prop where
  above : o = some .lt ↔ x.Above q
  below : o = some .gt ↔ x.Below q

theorem boundOrder?_tells (ha : a.quantity? = some (.ratio q)) (hb : b.quantity? = some x) :
    Tells (boundOrder? a b) x q := by
  have habove := Bound.less_iff_above ha hb
  have hbelow := Bound.less_iff_below ha hb
  unfold boundOrder?
  by_cases h : x.Above q
  · rw [if_pos (habove.mpr h)]
    exact ⟨iff_of_true rfl h, iff_of_false nofun h.not_below⟩
  · rw [if_neg (mt habove.mp h)]
    by_cases h' : x.Below q
    · rw [if_pos (hbelow.mpr h')]
      exact ⟨iff_of_false nofun h, iff_of_true rfl h'⟩
    · rw [if_neg (mt hbelow.mp h')]
      split
      · exact ⟨iff_of_false nofun h, iff_of_false nofun h'⟩
      · exact ⟨iff_of_false nofun h, iff_of_false nofun h'⟩

theorem tells_of_compares {o : Ordering} {y : ℚ} (h : o.Compares q y) :
    Tells (some o) (.ratio y) q := by
  have hlt : some o = some .lt ↔ q < y := by rw [Option.some.injEq, h.eq_lt]
  have hgt : some o = some .gt ↔ y < q := by rw [Option.some.injEq, h.eq_gt]
  exact ⟨hlt, hgt⟩

/-- A finite decimal number is compared with every bound that stands for something. -/
theorem order?_decimal {s : Bool} {c : ℕ} {e : ℤ} (hb : b.quantity? = some x) :
    ∃ o, order? (.decimal (.finite s c e)) b = .ok o ∧ Tells o x (Decimal.signed s c e) := by
  cases x with
  | endless negative =>
    obtain rfl := Bound.quantity?_endless hb
    refine ⟨_, rfl, ?_⟩
    cases negative with
    | true => exact ⟨iff_of_false nofun nofun, iff_of_true rfl rfl⟩
    | false => exact ⟨iff_of_true rfl rfl, iff_of_false nofun nofun⟩
  | ratio y =>
    obtain ⟨n, d, hr, hd, rfl, hmoderate⟩ := Bound.quantity?_ratio hb
    have hcompare := tells_of_compares (Decimal.compareRatio_compares (s := s) (c := c) (e := e) hd
      hmoderate)
    cases b with
    | int m =>
      cases hr
      exact ⟨_, rfl, hcompare⟩
    | float z =>
      cases z with
      | infinity negative => cases hr
      | nan => cases hr
      | finite s' m e' hf =>
        have hratio : (Binary64.finite s' m e' hf).ratio? = some (n, d) := hr
        refine ⟨some (Decimal.compareRatio s c e n d), ?_, hcompare⟩
        simp only [order?, hratio, Option.map_some]

/-- Every number is compared with every bound that stands for something. -/
theorem order?_tells (hv : v.quantity? = some (.ratio q)) (hb : b.quantity? = some x) :
    ∃ o, order? v b = .ok o ∧ Tells o x q := by
  cases v with
  | int n => exact ⟨_, rfl, boundOrder?_tells (a := .int n) hv hb⟩
  | float y => exact ⟨_, rfl, boundOrder?_tells (a := .float y) hv hb⟩
  | decimal d =>
    cases d with
    | finite s c e =>
      obtain rfl : Decimal.signed s c e = q := by
        simpa [Value.quantity?, Decimal.quantity?, Decimal.value?, Decimal.signed] using hv
      exact order?_decimal hb
    | infinity s => cases hv
    | nan _ _ _ => cases hv
  | _ => cases hv

theorem boundOrder?_nan (ha : a.quantity? = some (.ratio q)) :
    boundOrder? a (.float .nan) = none := by
  cases a with
  | int n => simp [boundOrder?, Bound.less, Bound.ratio?, Binary64.ratio?, Bound.same, Binary64.isInt]
  | float y =>
    cases y with
    | finite s m e hf =>
      simp [boundOrder?, Bound.less, Bound.ratio?, Binary64.ratio?, Bound.same, Binary64.sameValue]
    | infinity s => cases ha
    | nan => cases ha

/-! ## The bounds of a field -/

theorem checkBound_ok {bound? : Option Bound} {passes : Option Ordering → Bool}
    {cause : Bound → Refusal} : checkBound bound? passes cause v = .ok () ↔
      ∀ b, bound? = some b → ∃ o, order? v b = .ok o ∧ passes o = true := by
  unfold checkBound
  cases bound? with
  | none => simp [pure, Except.pure]
  | some b => simp [bind_ok, Ruled.require_ok]

/-- What the bound of a field says of a number, in the cases of a bound that is one and of a NaN. -/
theorem bound_passes_iff {p : Option Ordering → Bool} {b : Bound}
    (hv : v.quantity? = some (.ratio q)) (hnone : p none = true) {A : Quantity → Prop}
    (hpass : ∀ o x, Tells o x q → (p o = true ↔ A x)) :
    (∃ o, order? v b = .ok o ∧ p o = true) ↔
      (∀ x, b.quantity? = some x → A x) ∧ ((∃ d, v = .decimal d) → b ≠ .float .nan) := by
  cases hb : b.quantity? with
  | some x =>
    obtain ⟨o, ho, htells⟩ := order?_tells hv hb
    have hnan : b ≠ .float .nan := fun h => by rw [Bound.quantity?_none_iff.mpr h] at hb; cases hb
    simp [ho, hpass o x htells, hnan]
  | none =>
    obtain rfl := Bound.quantity?_none_iff.mp hb
    cases v with
    | int n => simp [order?, boundOrder?_nan (a := .int n) hv, hnone]
    | float y => simp [order?, boundOrder?_nan (a := .float y) hv, hnone]
    | decimal d =>
      cases d with
      | finite s c e => simp [order?]
      | infinity s => cases hv
      | nan _ _ _ => cases hv
    | _ => cases hv

end Rule

namespace Rules

/-- None of the bounds is a NaN. -/
structure Ordered (r : Rules) : Prop where
  minimum : r.minimum ≠ some (.float .nan)
  maximum : r.maximum ≠ some (.float .nan)

/-- No bound excludes a number. A bound that is a NaN excludes none. -/
structure Admits (r : Rules) (q : ℚ) : Prop where
  positive : r.positive = true → 0 < q
  minimum : ∀ b, r.minimum = some b → ∀ x, b.quantity? = some x → ¬ x.Above q
  maximum : ∀ b, r.maximum = some b → ∀ x, b.quantity? = some x → ¬ x.Below q

end Rules

/-- A number passes the bounds exactly if none excludes it, and none is a NaN where it is held as a
decimal number. -/
theorem Rule.checkBounds_ok_iff {r : Rules} {v : Value} {q : ℚ}
    (hv : v.quantity? = some (.ratio q)) :
    checkBounds r v = .ok () ↔ r.Admits q ∧ ((∃ d, v = .decimal d) → r.Ordered) := by
  have hpositive : checkBound (if r.positive then some (.int 0) else none)
      (fun o => o = some .gt) (fun _ => .notPositive) v = .ok () ↔ (r.positive = true → 0 < q) := by
    have hzero : (Bound.int 0).quantity? = some (.ratio ((0 : ℤ) : ℚ)) := rfl
    obtain ⟨o, ho, htells⟩ := order?_tells hv hzero
    have hbelow := htells.below
    rw [Quantity.Below, Int.cast_zero] at hbelow
    rw [checkBound_ok]
    cases r.positive with
    | false => simp
    | true => simp [ho, hbelow]
  have hminimum := fun b => bound_passes_iff (b := b) (p := fun o => o ≠ some .lt) hv (by simp)
    (A := fun x => ¬ x.Above q) fun o x h => by simp [h.above]
  have hmaximum := fun b => bound_passes_iff (b := b) (p := fun o => o ≠ some .gt) hv (by simp)
    (A := fun x => ¬ x.Below q) fun o x h => by simp [h.below]
  rw [checkBounds_eq]
  constructor
  · intro h
    obtain ⟨⟨⟩, hp, h⟩ := bind_ok.mp h
    obtain ⟨⟨⟩, hmin, hmax⟩ := bind_ok.mp h
    rw [checkBound_ok] at hmin hmax
    refine ⟨⟨hpositive.mp hp, ?_, ?_⟩, fun hd => ⟨?_, ?_⟩⟩
    · exact fun b hb => ((hminimum b).mp (hmin b hb)).1
    · exact fun b hb => ((hmaximum b).mp (hmax b hb)).1
    · exact fun hb => ((hminimum _).mp (hmin _ hb)).2 hd rfl
    · exact fun hb => ((hmaximum _).mp (hmax _ hb)).2 hd rfl
  · rintro ⟨hadmits, hordered⟩
    refine bind_ok.mpr ⟨(), hpositive.mpr hadmits.positive, bind_ok.mpr ⟨(), ?_, ?_⟩⟩
    · rw [checkBound_ok]
      refine fun b hb => (hminimum b).mpr ⟨hadmits.minimum b hb, ?_⟩
      rintro hd rfl
      exact (hordered hd).minimum hb
    · rw [checkBound_ok]
      refine fun b hb => (hmaximum b).mpr ⟨hadmits.maximum b hb, ?_⟩
      rintro hd rfl
      exact (hordered hd).maximum hb

end EntityStore
