import EntityStore.Value

/-!
# Outlines of values

A value is spelled out with each item and entry on a line of its own. Guides stand in front of a
line, one for each list or mapping that it is in.
-/

namespace EntityStore

namespace Console

def guide : String := "│   "

def indent (depth : Nat) (line : String) : String :=
  String.join (List.replicate depth guide) ++ line

/-- The lines of a value: the first stands behind `label`, and `ending` behind the last. -/
def container (depth : Nat) (label opening closing ending : String) (inner : List String) :
    List String :=
  [indent depth (label ++ opening)] ++ inner ++ [indent depth (closing ++ ending)]

mutual

def outline (depth : Nat) (label ending : String) : Value → List String
  | .list (item :: items) =>
    container depth label "[" "]" ending (outlineItems (depth + 1) (item :: items))
  | .mapping (entry :: entries) =>
    container depth label "\x7b" "\x7d" ending (outlineEntries (depth + 1) (entry :: entries))
  | v => [indent depth (label ++ v.scalarLiteral ++ ending)]

def outlineItems (depth : Nat) : List Value → List String
  | [] => []
  | v :: rest => outline depth "" (if rest.isEmpty then "" else ",") v ++ outlineItems depth rest

def outlineEntries (depth : Nat) : List (String × Value) → List String
  | [] => []
  | (k, v) :: rest =>
    outline depth (quoted k ++ ": ") (if rest.isEmpty then "" else ",") v
      ++ outlineEntries depth rest

end

end Console

end EntityStore
