import EntityStore.Text.Printable

/-!
# Quoted text

A text in quotes, on one line: single quotes unless it holds single quotes and no double ones; the
quote in use, the backslash, and characters that are not printable are escaped.
-/

namespace EntityStore

namespace Quoted

/-- `width` lower-case hexadecimal digits. -/
def hex (width n : Nat) : String :=
  let digits := Nat.toDigits 16 n
  String.ofList (List.replicate (width - digits.length) '0' ++ digits)

def escape (quote c : Char) : String :=
  if c = quote ∨ c = '\\' then String.ofList ['\\', c]
  else if c = '\t' then "\\t"
  else if c = '\n' then "\\n"
  else if c = '\r' then "\\r"
  else if isPrintable c then String.singleton c
  else
    let n := c.toNat
    if n < 256 then "\\x" ++ hex 2 n
    else if n < 65536 then "\\u" ++ hex 4 n
    else "\\U" ++ hex 8 n

def quoteFor (cs : List Char) : Char :=
  if cs.contains '\'' && !cs.contains '"' then '"' else '\''

end Quoted

/-- The text in quotes. -/
def quoted (s : String) : String :=
  let quote := Quoted.quoteFor s.toList
  String.singleton quote ++ String.join (s.toList.map (Quoted.escape quote)) ++ String.singleton quote

/-- Bytes in quotes, those outside printable ASCII as two hexadecimal digits. -/
def quotedBytes (bytes : List UInt8) : String :=
  let chars := bytes.map fun b => Char.ofNat b.toNat
  let quote := Quoted.quoteFor chars
  let escape (c : Char) : String :=
    if c.toNat < 127 then Quoted.escape quote c else "\\x" ++ Quoted.hex 2 c.toNat
  "b" ++ String.singleton quote ++ String.join (chars.map escape) ++ String.singleton quote

end EntityStore
