import EntityStore.Number.Binary64
import Mathlib.Data.Nat.Notation
import Mathlib.Tactic.ByContra

/-! # Rounding to the nearest integer

The result lies within a half of the fraction, and rounding keeps the order of a fraction and an
integer. A fraction that is nearer than a half to an integer is rounded to it.
-/
namespace EntityStore

variable {num den k : ℕ}

theorem roundHalfEven_eq (num den : ℕ) :
    roundHalfEven num den = num / den ∧ 2 * (num % den) ≤ den ∨
      roundHalfEven num den = num / den + 1 ∧ den ≤ 2 * (num % den) := by
  unfold roundHalfEven
  simp only
  split
  · left; omega
  · split
    · right; omega
    · split
      · left; omega
      · right; omega

theorem roundHalfEven_le (num den : ℕ) :
    2 * (roundHalfEven num den * den) ≤ 2 * num + den := by
  have hm := Nat.div_add_mod' num den
  rcases roundHalfEven_eq num den with ⟨h, hr⟩ | ⟨h, hr⟩
  · rw [h]
    omega
  · rw [h, Nat.add_mul]
    omega

theorem le_roundHalfEven (hd : 0 < den) :
    2 * num ≤ 2 * (roundHalfEven num den * den) + den := by
  have hm := Nat.div_add_mod' num den
  have hl := Nat.mod_lt num hd
  rcases roundHalfEven_eq num den with ⟨h, hr⟩ | ⟨h, hr⟩
  · rw [h]
    omega
  · rw [h, Nat.add_mul]
    omega

theorem le_roundHalfEven_of_le (hd : 0 < den) (h : k * den ≤ num) : k ≤ roundHalfEven num den := by
  have hq : k ≤ num / den := (Nat.le_div_iff_mul_le hd).mpr h
  rcases roundHalfEven_eq num den with ⟨h, -⟩ | ⟨h, -⟩ <;> omega

theorem roundHalfEven_le_of_le (hd : 0 < den) (h : num ≤ k * den) : roundHalfEven num den ≤ k := by
  have hq : num / den ≤ k := Nat.div_le_of_le_mul (by rwa [Nat.mul_comm])
  rcases roundHalfEven_eq num den with ⟨he, -⟩ | ⟨he, hm⟩
  · omega
  · -- a fraction that is rounded up has a remainder, so its integer part is below `k`
    by_contra hk
    have hdm := Nat.div_add_mod' num den
    have hle := Nat.mul_le_mul_right den (show k ≤ num / den by omega)
    omega

theorem roundHalfEven_mul (hd : 0 < den) : roundHalfEven (k * den) den = k :=
  Nat.le_antisymm (roundHalfEven_le_of_le hd (Nat.le_refl _))
    (le_roundHalfEven_of_le hd (Nat.le_refl _))

theorem roundHalfEven_one (k : ℕ) : roundHalfEven k 1 = k := by
  simpa using roundHalfEven_mul (k := k) Nat.one_pos

theorem roundHalfEven_of_near (hl : 2 * num < 2 * (k * den) + den)
    (hu : 2 * (k * den) < 2 * num + den) : roundHalfEven num den = k := by
  have hd : 0 < den := by omega
  have h1 := roundHalfEven_le num den
  have h2 : 2 * num ≤ 2 * (roundHalfEven num den * den) + den := le_roundHalfEven hd
  apply Nat.le_antisymm
  · by_contra hk
    have : (k + 1) * den ≤ roundHalfEven num den * den := Nat.mul_le_mul_right _ (by omega)
    rw [Nat.add_mul] at this
    omega
  · by_contra hk
    have : (roundHalfEven num den + 1) * den ≤ k * den := Nat.mul_le_mul_right _ (by omega)
    rw [Nat.add_mul] at this
    omega

theorem roundHalfEven_mul_right (hk : 0 < k) :
    roundHalfEven (num * k) (den * k) = roundHalfEven num den := by
  have hlt : ∀ a b : ℕ, a * k < b * k ↔ a < b := fun a b => Nat.mul_lt_mul_right hk
  unfold roundHalfEven
  simp only [Nat.mul_div_mul_right _ _ hk, Nat.mul_mod_mul_right, ← Nat.mul_assoc, hlt]

/-- Equal fractions are rounded to one integer. -/
theorem roundHalfEven_congr {num' den' : ℕ} (hd : 0 < den) (hd' : 0 < den')
    (h : num * den' = num' * den) : roundHalfEven num den = roundHalfEven num' den' := by
  rw [← @roundHalfEven_mul_right num den den' hd', ← @roundHalfEven_mul_right num' den' den hd, h,
    Nat.mul_comm den den']

end EntityStore
