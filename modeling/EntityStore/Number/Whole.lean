import EntityStore.Text.Parts

/-!
# Whole numbers

The range of a signed word, and whole numbers as people write them, in digits of any script.
-/

namespace EntityStore

/-- The least integer that a signed word of some bits does not hold. -/
def signedBound (bits : Nat) : Int := (Nat.pow 2 (bits - 1) : Nat)

/-- Reads a whole number as people write it: blanks around, a sign, single underscores between
digits, digits of any script. -/
def wholeNumber? (s : String) : Option Int :=
  let trimmed := trimBlanks s.toList
  let (negative, body) := match trimmed with
    | '-' :: rest => (true, rest)
    | '+' :: rest => (false, rest)
    | cs => (false, cs)
  let rec go (afterDigit : Bool) (n : Nat) : List Char → Option Nat
    | [] => if afterDigit then some n else none
    | '_' :: rest => if afterDigit then go false n rest else none
    | c :: rest => match decimalValue? c with
      | some d => go true (10 * n + d) rest
      | none => none
  (go false 0 body).map fun n => if negative then -(n : Int) else n

end EntityStore
