import EntityStore.Proofs.FixedPoint

/-! # Quantities

Numbers of every form are compared by the exact quantity that they stand for, moments by their
instant, and all other values as they are.
-/
namespace EntityStore

/-- A fraction, or what lies beyond all of them on one side. -/
inductive Quantity where
  | ratio (q : ℚ)
  | endless (negative : Bool)

def Binary64.quantity? : Binary64 → Option Quantity
  | .infinity negative => some (.endless negative)
  | x => x.toRat?.map .ratio

def Decimal.quantity? : Decimal → Option Quantity
  | .infinity negative => some (.endless negative)
  | d => d.value?.map .ratio

namespace Value

/-- The quantity of a number; other values and what is not a number have none. -/
def quantity? : Value → Option Quantity
  | .int n => some (.ratio n)
  | .float x => x.quantity?
  | .decimal d => d.quantity?
  | _ => none

/-- Equality of values, whatever the form of a number or the offset of a moment. -/
inductive Same : Value → Value → Prop where
  | refl (v : Value) : Same v v
  | number {v w : Value} (q : Quantity) (left : v.quantity? = some q)
    (right : w.quantity? = some q) : Same v w
  | moment {t u : Timestamp} (instant : t.instant = u.instant) : Same (.timestamp t) (.timestamp u)

theorem Same.symm {v w : Value} (h : Same v w) : Same w v := by
  cases h with
  | refl => exact .refl v
  | number q hv hw => exact .number q hw hv
  | moment h => exact .moment h.symm

theorem Same.trans {u v w : Value} (h : Same u v) (k : Same v w) : Same u w := by
  cases h with
  | refl => exact k
  | number q hu hv =>
    cases k with
    | refl => exact .number q hu hv
    | number q' hv' hw =>
      rw [hv] at hv'
      cases hv'
      exact .number q hu hw
    | moment h => cases hv
  | moment h =>
    cases k with
    | refl => exact .moment h
    | number q hv hw => cases hv
    | moment k => exact .moment (h.trans k)

/-- A number is the same only as a number of its quantity. -/
theorem same_iff_of_quantity {v w : Value} {q : Quantity} (h : v.quantity? = some q) :
    Same v w ↔ w.quantity? = some q := by
  constructor
  · intro hs
    cases hs with
    | refl => exact h
    | number q' hv hw =>
      rw [h] at hv
      cases hv
      exact hw
    | moment _ => cases h
  · exact .number q h

end Value

/-! ## Numbers of a fixed number of places -/

namespace Binary64

theorem quantity?_finite (s : Bool) (m : ℕ) (e : ℤ) (h : isNormalForm m e = true) :
    (finite s m e h).quantity? = some (.ratio (if s then -dyadic m e else dyadic m e)) := by
  rw [quantity?, toRat?_finite]
  · rfl
  · rintro n ⟨⟩

theorem fixedUnits_lt {places m : ℕ} {e : ℤ} (h : isNormalForm m e = true) :
    fixedUnits places m e < 10 ^ (53 + 971 + places) := by
  obtain ⟨hm, -, he⟩ := isNormalForm_bounds h
  have hm10 : m < 10 ^ 53 := hm.trans (Nat.pow_lt_pow_left (by norm_num) (by norm_num))
  have hp : 0 < 10 ^ places := by positivity
  rw [pow_add]
  rcases le_or_gt 0 e with h0 | h0
  · have hn : e.toNat ≤ 971 := by
      simp only [maxExponent] at he
      omega
    have h2 : 2 ^ e.toNat ≤ 10 ^ 971 :=
      (Nat.pow_le_pow_left (by norm_num) _).trans (pow_le_pow_right₀ (by norm_num) hn)
    rw [fixedUnits, if_pos h0, pow_add]
    exact Nat.mul_lt_mul_of_pos_right (Nat.mul_lt_mul_of_lt_of_le hm10 h2 (by positivity)) hp
  · have h2 : 0 < 2 ^ (-e).toNat := by positivity
    rw [fixedUnits, if_neg (not_le.mpr h0)]
    refine (roundHalfEven_le_of_le h2 (Nat.le_mul_of_pos_right _ h2)).trans_lt ?_
    refine Nat.mul_lt_mul_of_pos_right (hm10.trans_le ?_) hp
    exact pow_le_pow_right₀ (by norm_num) (by omega)

/-- With places enough for the last bit nothing is rounded off. -/
theorem fixedUnits_exact {places m : ℕ} {e : ℤ} (h : isNormalForm m e = true)
    (hp : 1074 ≤ places) : Decimal.scaled (fixedUnits places m e) (-(places : ℤ)) = dyadic m e := by
  obtain ⟨-, he, -⟩ := isNormalForm_bounds h
  have hten : ((10 : ℚ) ^ places)⁻¹ * 10 ^ places = 1 := inv_mul_cancel₀ (by positivity)
  have hunits : (fixedUnits places m e : ℚ) = dyadic m e * 10 ^ places := by
    rcases le_or_gt 0 e with he0 | he0
    · lift e to ℕ using he0
      simp only [fixedUnits, Int.natCast_nonneg, if_true, Int.toNat_natCast, Nat.pow_eq, dyadic,
        zpow_natCast]
      push_cast
      ring
    · obtain ⟨n, rfl⟩ := Int.exists_eq_neg_ofNat he0.le
      have hn : n ≤ places := by
        simp only [minExponent] at he
        omega
      have hsplit : m * 10 ^ places = m * 5 ^ places * 2 ^ (places - n) * 2 ^ n := by
        rw [Nat.mul_assoc, ← pow_add, Nat.sub_add_cancel hn, Nat.mul_assoc, ← mul_pow]
        norm_num
      have hr : fixedUnits places m (-n) = m * 5 ^ places * 2 ^ (places - n) := by
        rw [fixedUnits, if_neg (not_le.mpr he0), neg_neg, Int.toNat_natCast, Nat.pow_eq, Nat.pow_eq,
          hsplit, roundHalfEven_mul (by positivity)]
      have h2 : (m : ℚ) * 10 ^ places = fixedUnits places m (-n) * 2 ^ n := by
        rw [hr]
        exact_mod_cast hsplit
      rw [dyadic, zpow_neg, zpow_natCast, mul_assoc, mul_comm (_)⁻¹, ← mul_assoc, h2, mul_assoc,
        mul_inv_cancel₀ (by positivity), mul_one]
  rw [Decimal.scaled, hunits, zpow_neg, zpow_natCast, mul_assoc, mul_inv_cancel₀ (by positivity),
    mul_one]

/-- A number rounded to some places, halves to even. -/
def rounded? (places : ℕ) : Binary64 → Option Quantity
  | finite s m e _ =>
    let q := Decimal.scaled (fixedUnits places m e) (-(places : ℤ))
    some (.ratio (if s then -q else q))
  | infinity negative => some (.endless negative)
  | nan => none

private theorem inRange_fixedUnits {places m : ℕ} {e : ℤ} (h : isNormalForm m e = true)
    (hp : places < 1074) : Decimal.inRange (fixedUnits places m e) (-(places : ℤ)) = true := by
  have hd : digitCount (fixedUnits places m e) ≤ 53 + 971 + places :=
    (digitCount_le_iff (by omega)).mpr (fixedUnits_lt h)
  simp only [Decimal.inRange, Decimal.minExponent, Decimal.maxAdjusted]
  split <;> simp <;> omega

end Binary64

theorem ofText?_words :
    Decimal.ofText? "inf" = some (.infinity false) ∧
      Decimal.ofText? "-inf" = some (.infinity true) ∧
      Decimal.ofText? "nan" = some (.nan false false 0) := by
  decide +kernel

/-- A number that is read back from a column with some places is rounded to them. -/
theorem quantity?_fixedDecimal (scale : Option ℕ) (x : Binary64) :
    (Database.fixedDecimal scale x).quantity? =
      x.rounded? (scale.getD Database.standardScale) := by
  set places := scale.getD Database.standardScale with hp
  cases x with
  | finite s m e h =>
    rw [Database.fixedDecimal, ← hp, Binary64.ofText?_toFixed]
    by_cases hr : Decimal.inRange (Binary64.fixedUnits places m e) (-(places : ℤ)) = true
    · rw [if_pos hr]
      rfl
    · rw [if_neg hr]
      have hlarge : 1074 ≤ places := by
        by_contra hc
        exact hr (Binary64.inRange_fixedUnits h (by omega))
      simp only [Value.quantity?, Binary64.quantity?_finite, Binary64.rounded?,
        Binary64.fixedUnits_exact h hlarge]
  | infinity s =>
    obtain ⟨hp, hn, -⟩ := ofText?_words
    cases s
    · simp [Database.fixedDecimal, Binary64.toFixed, hp, Value.quantity?, Decimal.quantity?,
        Binary64.rounded?]
    · simp [Database.fixedDecimal, Binary64.toFixed, hn, Value.quantity?, Decimal.quantity?,
        Binary64.rounded?]
  | nan =>
    simp [Database.fixedDecimal, Binary64.toFixed, ofText?_words, Value.quantity?,
      Decimal.quantity?, Decimal.value?, Binary64.rounded?]

end EntityStore
