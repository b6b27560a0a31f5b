/-!
# Sets of characters

A set of code points is the ascending list of the points where membership changes. A point is a
member when an odd number of changes lies at or below it.
-/

namespace EntityStore

structure CharSet where
  changes : Array Nat

namespace CharSet

def containsCode (s : CharSet) (code : Nat) : Bool :=
  s.changes.foldl (fun inside change => if change ≤ code then !inside else inside) false

def contains (s : CharSet) (c : Char) : Bool := s.containsCode c.toNat

end CharSet

end EntityStore
