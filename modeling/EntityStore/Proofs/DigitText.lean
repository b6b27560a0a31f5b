import EntityStore.Number.Decimal
import EntityStore.Calendar.Iso
import Mathlib.Algebra.Group.Nat.Defs

/-! # Texts of digits

A natural number is written in digits, with zeros in front up to some width. Reading the digits
gives the number back.
-/
namespace EntityStore

theorem digit_bounds {c : Char} (h : c.isDigit = true) : 48 ≤ c.toNat ∧ c.toNat ≤ 57 := by
  simp only [Char.isDigit, Bool.and_eq_true, decide_eq_true_eq] at h
  exact ⟨h.1, h.2⟩

theorem digitsValue?_eq {cs : List Char} (h : ∀ c ∈ cs, c.isDigit = true) :
    Decimal.digitsValue? cs = some (Nat.ofDigitChars 10 cs 0) := by
  suffices ∀ n, cs.foldl (fun acc c => acc.bind fun n =>
      if c.isDigit then some (10 * n + (c.toNat - 48)) else none) (some n) =
      some (Nat.ofDigitChars 10 cs n) from this 0
  induction cs with
  | nil => simp
  | cons c cs ih =>
    intro n
    rw [List.foldl_cons, Nat.ofDigitChars_cons, Option.bind_some, if_pos (h c (by simp))]
    exact ih (fun d hd => h d (List.mem_cons_of_mem _ hd)) _

theorem takeWhile_digits {ds : List Char} (h : ∀ c ∈ ds, c.isDigit = true) (rest : List Char)
    (hr : ∀ c, rest.head? = some c → c.isDigit = false) :
    (ds ++ rest).takeWhile Char.isDigit = ds ∧ (ds ++ rest).dropWhile Char.isDigit = rest := by
  rw [List.takeWhile_append_of_pos h, List.dropWhile_append_of_pos h]
  cases rest with
  | nil => simp
  | cons c rest => simp [hr c rfl]

/-! ## Digits of a width -/

/-- The digits of a number, with zeros in front up to a width. -/
def paddedDigits (width n : ℕ) : List Char :=
  List.replicate (width - (Nat.toDigits 10 n).length) '0' ++ Nat.toDigits 10 n

theorem le_length_paddedDigits (width n : ℕ) : width ≤ (paddedDigits width n).length := by
  simp only [paddedDigits, List.length_append, List.length_replicate]
  omega

theorem length_paddedDigits {width n : ℕ} (hw : 0 < width) (hn : n < 10 ^ width) :
    (paddedDigits width n).length = width := by
  have := (Nat.length_toDigits_le_iff (by decide) hw).mpr hn
  simp only [paddedDigits, List.length_append, List.length_replicate]
  omega

theorem isDigit_paddedDigits {width n : ℕ} {c : Char} (h : c ∈ paddedDigits width n) :
    c.isDigit = true := by
  rcases List.mem_append.mp h with h | h
  · rw [List.eq_of_mem_replicate h]
    rfl
  · exact Nat.isDigit_of_mem_toDigits (by decide) (by decide) h

@[simp] theorem ofDigitChars_paddedDigits (width n : ℕ) :
    Nat.ofDigitChars 10 (paddedDigits width n) 0 = n := by
  rw [paddedDigits, Nat.ofDigitChars_append]
  simp

theorem padded_toList (width n : ℕ) : (Iso.padded width n).toList = paddedDigits width n := by
  rw [Iso.padded, String.toList_ofList]
  rfl

end EntityStore
