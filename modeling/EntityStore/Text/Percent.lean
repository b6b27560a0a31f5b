import EntityStore.Text.Utf8

/-!
# Percent-encoding

A percent sign and two hexadecimal digits stand for a byte. Decoding leaves a percent sign without
two digits as it is; encoding writes every byte outside a set of safe characters in this way.
-/

namespace EntityStore

namespace Percent

def hexDigit? (b : UInt8) : Option Nat :=
  let n := b.toNat
  if 48 ≤ n ∧ n ≤ 57 then some (n - 48)
  else if 65 ≤ n ∧ n ≤ 70 then some (n - 55)
  else if 97 ≤ n ∧ n ≤ 102 then some (n - 87)
  else none

/-- The byte that two digits stand for. -/
def byte? (x y : UInt8) : Option UInt8 := do
  let high ← hexDigit? x
  let low ← hexDigit? y
  some (UInt8.ofNat (16 * high + low))

def decodeBytes : List UInt8 → List UInt8
  | 37 :: x :: y :: rest =>
    match byte? x y with
    | some b => b :: decodeBytes rest
    | none => 37 :: decodeBytes (x :: y :: rest)
  | b :: rest => b :: decodeBytes rest
  | [] => []

/-- Letters, digits and the marks that never need encoding. -/
def isUnreserved (c : Char) : Bool :=
  c.isAlphanum || c = '_' || c = '.' || c = '-' || c = '~'

def encodeByte (safe : Char → Bool) (b : UInt8) : String :=
  let c := Char.ofNat b.toNat
  if b.toNat < 128 ∧ (isUnreserved c ∨ safe c) then String.singleton c
  else
    let digits := (Nat.toDigits 16 b.toNat).map Char.toUpper
    "%" ++ String.ofList (List.replicate (2 - digits.length) '0' ++ digits)

def encode (safe : Char → Bool) (s : String) : String :=
  String.join (s.toUTF8.toList.map (encodeByte safe))

/-- Decodes the bytes of a text; what is no UTF-8 then becomes replacement characters. -/
def decode (s : String) : String := Utf8.decodeLossy (decodeBytes s.toUTF8.toList)

end Percent

end EntityStore
