/-!
# Search patterns

The expressions that a pattern text stands for. Groups are numbered from one.
-/

namespace EntityStore

namespace Pattern

structure Flags where
  ignoreCase : Bool := false
  multiline : Bool := false
  dotAll : Bool := false
  verbose : Bool := false
  /-- Letters, digits and blanks are those of ASCII only. -/
  ascii : Bool := false
  /-- Asks for the full character classes in so many words. -/
  wide : Bool := false
  template : Bool := false
  deriving DecidableEq, Repr, Inhabited

inductive CharClass where
  | digit
  | space
  | word
  deriving DecidableEq, Repr

inductive SetItem where
  | one (code : Nat)
  | range (first last : Nat)
  | ofClass (c : CharClass) (complement : Bool)
  deriving DecidableEq, Repr

inductive Anchor where
  | lineStart
  | lineEnd
  | textStart
  | textEnd
  | wordEdge
  | wordInside
  deriving DecidableEq, Repr

inductive Mode where
  | greedy
  | lazy
  | possessive
  deriving DecidableEq, Repr

inductive Expr where
  | empty
  | one (code : Nat)
  | oneBut (code : Nat)
  | anyChar
  | oneOf (complement : Bool) (items : List SetItem)
  | anchor (a : Anchor)
  | seq (first rest : Expr)
  | either (left right : Expr)
  | repeated (least : Nat) (most : Option Nat) (mode : Mode) (body : Expr)
  | group (number : Nat) (body : Expr)
  | scoped (add drop : Flags) (body : Expr)
  | atomic (body : Expr)
  | ahead (complement : Bool) (body : Expr)
  | behind (complement : Bool) (body : Expr)
  | again (group : Nat)
  | branch (group : Nat) (yes no : Expr)
  deriving DecidableEq, Repr, Inhabited

namespace Expr

def ofList : List Expr → Expr
  | [] => empty
  | [e] => e
  | e :: rest => seq e (ofList rest)

/-- Matches exactly one character, whatever the text. -/
def isUnit : Expr → Bool
  | one _ | oneBut _ | anyChar | oneOf .. => true
  | _ => false

end Expr

/-- A pattern that was read: its expression, the flags that hold throughout, and the number of its
groups. -/
structure Compiled where
  expr : Expr
  flags : Flags
  groups : Nat
  deriving DecidableEq, Repr, Inhabited

end Pattern

end EntityStore
