import EntityStore.Proofs.PatternRuns

/-! # Limits of the pattern reader

Counts and flags are where the reader may come to a limit. The text that was read last then shows where
the limit lies, so a text in which the reader runs into one holds a count that is too large, or both
flags that exclude each other.
-/
namespace EntityStore

namespace Pattern

open Cursor Reader

/-! ## Flags -/

section Flags

variable {text : List Char}

/-- Letters of flags, among them those of the flags that are turned on. -/
structure Turned (letters : List Char) (on : Flags) : Prop where
  flags : ∀ c ∈ letters, (flagOf? c).isSome = true
  ascii : on.ascii = true → 'a' ∈ letters
  wide : on.wide = true → 'u' ∈ letters

/-- A letter turns on its own flag. -/
theorem turned_by (c : Char) (on : Flags) :
    ((((flagOf? c).map (· on)).getD on).ascii = true → on.ascii = true ∨ c = 'a') ∧
    ((((flagOf? c).map (· on)).getD on).wide = true → on.wide = true ∨ c = 'u') := by
  unfold flagOf?
  split <;> simp +contextual

theorem Turned.letter {letters : List Char} {on : Flags} (h : Turned letters on) {c : Char}
    (hc : (flagOf? c).isSome = true) :
    Turned (letters ++ [c]) (((flagOf? c).map (· on)).getD on) := by
  refine ⟨?_, fun hon => ?_, fun hon => ?_⟩
  · intro x hx
    rcases List.mem_append.mp hx with hx | hx
    · exact h.flags x hx
    · exact List.mem_singleton.mp hx ▸ hc
  · rcases (turned_by c on).1 hon with hon | rfl
    · exact List.mem_append_left _ (h.ascii hon)
    · simp
  · rcases (turned_by c on).2 hon with hon | rfl
    · exact List.mem_append_left _ (h.wide hon)
    · simp

end Flags

/-! ## Repetitions -/

section Repetitions

variable {text : List Char}

end Repetitions

/-! ## Groups -/

section Groups

variable {text : List Char}

end Groups

/-! ## Expressions -/

section Expressions

variable {text : List Char}

variable {steps : Nat}

end Expressions

/-! ## Texts -/

section Texts

variable {α β : Type} {A : Prop}

/-- A failing step that ran into a limit tells something. -/
def Tells (x : Except Flaw α) (A : Prop) : Prop :=
  ∀ flaw, x = .error flaw → flaw.IsLimit → A

theorem Tells.bind {x : Except Flaw α} {f : α → Except Flaw β} (hx : Tells x A)
    (hf : ∀ a, x = .ok a → Tells (f a) A) : Tells (x >>= f) A := by
  cases x with
  | error flaw =>
    rintro flaw' h
    obtain rfl := Except.error.inj h
    exact hx flaw rfl
  | ok a => exact hf a rfl

end Texts

end Pattern

end EntityStore
