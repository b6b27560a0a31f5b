import EntityStore.Proofs.Answering
import EntityStore.Proofs.DayNumber
import EntityStore.Proofs.Checking

/-! # Checks without an answer

Without predicates, two kinds of values end a check without an answer: a moment that leaves the
calendar on its way to universal time, and a decimal number that reaches a bound which is no number.
-/
namespace EntityStore

namespace Ruled

variable {α β : Type} {r : Ruled α} {k : α → Ruled β} {e : Escape}

end Ruled

namespace Rule

open Ruled

variable {f : Field} {v x : Value} {e : Escape}

/-! ## Bounds -/

section Finite

variable {s : Bool} {c : ℕ} {n : ℤ} {bound? : Option Bound} {passes : Option Ordering → Bool}
  {cause : Bound → Refusal}

end Finite

/-! ## Fields -/

end Rule

namespace Validator

variable {d : Descriptor} {v : Validator} {mode : PayloadMode} {entries : List (String × Value)}
  {f : Field} {e : Escape}

end Validator

end EntityStore
