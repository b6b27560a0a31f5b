import EntityStore.Database.Binding
import EntityStore.Proofs.BinaryValue
import EntityStore.Proofs.NumberText

/-! # Numbers written with a fixed number of places

A binary number that is written with some digits after the point and read as a decimal number is
the nearest number with so many digits.
-/
namespace EntityStore

namespace Binary64

/-- A number in units of the last of some places after the point. -/
def fixedUnits (places m : ℕ) (e : ℤ) : ℕ :=
  if 0 ≤ e then m * Nat.pow 2 e.toNat * Nat.pow 10 places
  else roundHalfEven (m * Nat.pow 10 places) (Nat.pow 2 (-e).toNat)

theorem toFixed_finite (places : ℕ) (s : Bool) (m : ℕ) (e : ℤ) (h : isNormalForm m e = true) :
    (toFixed places (finite s m e h)).toList = (if s then ['-'] else []) ++
      pointText ((paddedDigits (places + 1) (fixedUnits places m e)).take
          ((paddedDigits (places + 1) (fixedUnits places m e)).length - places))
        ((paddedDigits (places + 1) (fixedUnits places m e)).drop
          ((paddedDigits (places + 1) (fixedUnits places m e)).length - places)) := by
  set digits := paddedDigits (places + 1) (fixedUnits places m e) with hd
  have hlen : places + 1 ≤ digits.length := le_length_paddedDigits _ _
  have he : (digits.drop (digits.length - places)).isEmpty = true ↔ places = 0 := by
    rw [List.isEmpty_iff, ← List.length_eq_zero_iff, List.length_drop]
    omega
  have hp : (zeros (places + 1 - (decimalDigits (fixedUnits places m e)).length) ++
      decimalDigits (fixedUnits places m e)) = String.ofList digits := by
    rw [hd, paddedDigits, String.ofList_append, zeros, decimalDigits, String.length_ofList]
  unfold fixedUnits at hp
  simp only [toFixed, hp, String.toList_append, String.toList_ofList, String.length_ofList,
    pointText, he, List.append_assoc]
  congr 1
  · cases s <;> rfl
  · split
    · rfl
    · simp only [String.toList_append, String.toList_ofList]
      rfl

/-- A number with some places is read as so many units, where its exponent is representable. -/
theorem ofText?_toFixed (places : ℕ) (s : Bool) (m : ℕ) (e : ℤ) (h : isNormalForm m e = true) :
    Decimal.ofText? (toFixed places (finite s m e h)) =
      if Decimal.inRange (fixedUnits places m e) (-(places : ℤ)) then
        some (.finite s (fixedUnits places m e) (-(places : ℤ)))
      else none := by
  set digits := paddedDigits (places + 1) (fixedUnits places m e) with hd
  have hlen : places + 1 ≤ digits.length := le_length_paddedDigits _ _
  have hdigit : ∀ c ∈ digits, c.isDigit = true := fun c hc => isDigit_paddedDigits hc
  have hne : digits.take (digits.length - places) ≠ [] := by
    intro hw
    have := congrArg List.length hw
    rw [List.length_take, List.length_nil] at this
    omega
  have hread := ofChars?_signed s (fun c hc => hdigit c (List.mem_of_mem_take hc))
    (fun c (hc : c ∈ digits.drop (digits.length - places)) => hdigit c (List.mem_of_mem_drop hc))
    hne Tail.none
  have hf : (digits.drop (digits.length - places)).length = places := by
    rw [List.length_drop]
    omega
  rw [List.append_nil, List.take_append_drop, hf, zero_sub, hd, ofDigitChars_paddedDigits] at hread
  rw [Decimal.ofText?, toFixed_finite, hread]

end Binary64

end EntityStore
