import EntityStore.Value

/-!
# Writing JSON

Two spaces for each level, an entry or item to a line, and ASCII only: other characters are written
as UTF-16 escapes. Values that JSON does not know are written as their plain text in quotes.
-/

namespace EntityStore

namespace Json

/-- One UTF-16 unit as an escape. -/
def unitEscape (n : Nat) : String := "\\u" ++ Quoted.hex 4 n

def charText (c : Char) : String :=
  match c with
  | '"' => "\\\""
  | '\\' => "\\\\"
  | '\n' => "\\n"
  | '\r' => "\\r"
  | '\t' => "\\t"
  | c =>
    let n := c.toNat
    if n = 8 then "\\b"
    else if n = 12 then "\\f"
    else if 32 ≤ n ∧ n < 127 then String.singleton c
    else if n < 65536 then unitEscape n
    else
      let m := n - 65536
      unitEscape (0xd800 + m / 1024) ++ unitEscape (0xdc00 + m % 1024)

def textLiteral (s : String) : String :=
  "\"" ++ String.join (s.toList.map charText) ++ "\""

def floatText : Binary64 → String
  | .nan => "NaN"
  | .infinity s => if s then "-Infinity" else "Infinity"
  | x => x.toText

def scalar : Value → String
  | .null => "null"
  | .bool b => if b then "true" else "false"
  | .int n => toString n
  | .float x => floatText x
  | v => textLiteral v.plain

def newline (depth : Nat) : String := "\n" ++ String.ofList (List.replicate (2 * depth) ' ')

mutual

def write (depth : Nat) : Value → String
  | .list [] => "[]"
  | .list items =>
    "[" ++ newline (depth + 1)
      ++ String.intercalate ("," ++ newline (depth + 1)) (writeItems (depth + 1) items)
      ++ newline depth ++ "]"
  | .mapping [] => "\x7b\x7d"
  | .mapping entries =>
    "\x7b" ++ newline (depth + 1)
      ++ String.intercalate ("," ++ newline (depth + 1)) (writeEntries (depth + 1) entries)
      ++ newline depth ++ "\x7d"
  | v => scalar v

def writeItems (depth : Nat) : List Value → List String
  | [] => []
  | v :: rest => write depth v :: writeItems depth rest

def writeEntries (depth : Nat) : List (String × Value) → List String
  | [] => []
  | (k, v) :: rest => (textLiteral k ++ ": " ++ write depth v) :: writeEntries depth rest

end

def render (v : Value) : String := write 0 v

end Json

end EntityStore
