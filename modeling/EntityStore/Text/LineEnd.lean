/-!
# Line ends

Lines end with a line feed, a carriage return, or both in this order.
-/

namespace EntityStore

/-- Line ends of every kind as line feeds. -/
def plainLineEnds : List Char → List Char
  | '\r' :: '\n' :: rest => '\n' :: plainLineEnds rest
  | '\r' :: rest => '\n' :: plainLineEnds rest
  | c :: rest => c :: plainLineEnds rest
  | [] => []

end EntityStore
