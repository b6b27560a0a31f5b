import EntityStore.Proofs.Accepted
import EntityStore.Proofs.Ruled
import EntityStore.Validation.Payload

/-! # Rules that come to an answer

A rule passes a value or refuses it. Three things end it without an answer: a predicate that breaks,
a moment outside the calendar, and a decimal number that is held against a bound that is no number.
-/
namespace EntityStore

/-! ## Chains of checks -/

namespace Ruled

/-- The check passes or refuses. -/
def Answers {α : Type} (r : Ruled α) : Prop := ∀ e, r ≠ .error (.escaped e)

section

variable {α β : Type}

theorem Answers.bind {r : Ruled α} {f : α → Ruled β} (hr : r.Answers)
    (hf : ∀ a, r = .ok a → (f a).Answers) : Answers (r >>= f) := by
  intro e h
  cases r with
  | error stop =>
    injection h with h
    exact hr e (h ▸ rfl)
  | ok a => exact hf a rfl e h

end

end Ruled

/-! ## Rules -/

namespace Rule

open Ruled

variable {f : Field} {v : Value}

/-- One bound, if it is there. -/
def checkBound (bound? : Option Bound) (passes : Option Ordering → Bool) (cause : Bound → Refusal)
    (v : Value) : Ruled Unit :=
  match bound? with
  | none => pure ()
  | some b => do
    let o ← order? v b
    require (passes o) (cause b)

/-- The bounds of a field are checked one after the other. -/
theorem checkBounds_eq (r : Rules) (v : Value) : checkBounds r v = (do
    checkBound (if r.positive then some (.int 0) else none) (· = some .gt) (fun _ => .notPositive) v
    checkBound r.minimum (· ≠ some .lt) (fun b => .belowMinimum b.text) v
    checkBound r.maximum (· ≠ some .gt) (fun b => .aboveMaximum b.text) v) := by
  unfold checkBounds checkBound
  cases r.positive <;> cases r.minimum <;> cases r.maximum <;> simp

end Rule

end EntityStore
