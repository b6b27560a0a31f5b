import EntityStore.Pattern.Reader
import Mathlib.Data.List.Infix

/-! # Runs of the pattern reader

The reader of patterns gives up on a text that is no pattern, and also on one that is more than it
takes: a repetition with too large a count, or flags that ask for two readings of one class. What is
carried along a run is the text that was read last: with what is left to read it ends the whole text.
Here are the rules for runs, and the readers that never come to a limit.
-/
namespace EntityStore

namespace Pattern

/-- A limit of the reader, and no fault of the text. -/
def Flaw.IsLimit : Flaw → Prop
  | .fault .. => False
  | _ => True

/-! ## What a text holds -/

/-- The digits of a count that no repetition may name. -/
def TooLarge (digits : List Char) : Prop :=
  maxNumberDigits < digits.length ∨ maxRepeat ≤ decimalValue digits

/-- Between braces stand a count, or two, of which one is too large. -/
def HugeRepeat (text : List Char) : Prop :=
  ∃ low high : List Char, (∀ c ∈ low ++ high, c.isDigit = true) ∧
    (TooLarge low ∧ '\x7b' :: low ++ ['\x7d'] <:+: text ∨
      (TooLarge low ∨ TooLarge high) ∧ '\x7b' :: low ++ ',' :: high ++ ['\x7d'] <:+: text)

/-- Flags for the whole pattern, among them the one of a letter. -/
def FlagGroup (letter : Char) (text : List Char) : Prop :=
  ∃ letters : List Char, (∀ c ∈ letters, (flagOf? c).isSome = true) ∧ letter ∈ letters ∧
    '(' :: '?' :: letters ++ [')'] <:+: text

/-- More than the reader takes. -/
def Excessive (text : List Char) : Prop :=
  HugeRepeat text ∨ FlagGroup 'a' text ∧ FlagGroup 'u' text

/-! ## Characters of tokens -/

namespace Token

@[simp] def chars : Token → List Char
  | plain c => [c]
  | escaped c => ['\\', c]
  | dangling => ['\\']

end Token

/-! ## Runs of the reader -/

/-- What is left to read. -/
def Cursor.rest (c : Cursor) : List Char := c.tokens.flatMap Token.chars

/-- The reader stands in a text right behind what it read last, and saw the flags that it notes. -/
structure Cursor.Within (text : List Char) (last : List Char) (c : Cursor) : Prop where
  rest : last ++ c.rest <:+ text
  ascii : c.flags.ascii = true → FlagGroup 'a' text
  wide : c.flags.wide = true → FlagGroup 'u' text

open Cursor Reader

section Runs

variable {text : List Char} {α β : Type}

/-- From cursors of one kind a reader gets to cursors of another kind, or fails; a limit it fails with
lies in the text. -/
def Ends (text : List Char) (P : Cursor → Prop) (m : Reader α) (Q : α → Cursor → Prop) : Prop :=
  ∀ c, P c → match m.run c with
    | .ok (a, c') => Q a c'
    | .error flaw => flaw.IsLimit → Excessive text

variable {P P' : Cursor → Prop} {Q : α → Cursor → Prop} {R : β → Cursor → Prop} {m : Reader α}
  {f : α → Reader β}

theorem ends_bind (hm : Ends text P m Q) (hf : ∀ a, Ends text (Q a) (f a) R) :
    Ends text P (m >>= f) R := by
  intro c hc
  have hm := hm c hc
  rw [StateT.run_bind]
  cases hr : m.run c with
  | error flaw =>
    rw [hr] at hm
    exact hm
  | ok p =>
    rw [hr] at hm
    exact hf p.1 p.2 hm

/-- A reader that goes on within the text from wherever it stands. -/
def Keeps (text : List Char) (m : Reader α) : Prop :=
  ∀ last, Ends text (Within text last) m fun _ => Within text []

end Runs

/-! ## Tokens -/

section Tokens

variable {text : List Char} {α β : Type} {last : List Char} {c : Cursor}

theorem Cursor.Within.drop {first : List Char} (h : c.Within text (first ++ last)) :
    c.Within text last :=
  ⟨(List.append_assoc first .. ▸ List.suffix_append first _).trans h.rest, h.ascii, h.wide⟩

theorem Keeps.bind {m : Reader α} {f : α → Reader β} (hm : Keeps text m)
    (hf : ∀ a, Keeps text (f a)) : Keeps text (m >>= f) :=
  fun last => ends_bind (hm last) fun a => hf a []

end Tokens

/-! ## Escapes and sets -/

section Escapes

variable {text : List Char}

end Escapes

end Pattern

end EntityStore
