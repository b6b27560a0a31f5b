import EntityStore.Number.Shortest
import EntityStore.Text.Parts

/-!
# Decimal numbers

A finite decimal is `± coeff * 10 ^ exp`; trailing zeros are part of the number's form, so `1.5` and
`1.50` are equal in value and different in text. Comparison and rounding are exact, and never build
a power of ten larger than the comparison needs.
-/

namespace EntityStore

inductive Decimal where
  | finite (negative : Bool) (coeff : Nat) (exp : Int)
  | infinity (negative : Bool)
  /-- A quiet or signalling NaN, with the digits that follow its name; zero for none. -/
  | nan (signaling negative : Bool) (payload : Nat)
  deriving DecidableEq, Repr, Inhabited

def digitCount (n : Nat) : Nat := (Nat.toDigits 10 n).length

namespace Decimal

def ofInt (n : Int) : Decimal := finite (decide (n < 0)) n.natAbs 0

def isFinite : Decimal → Bool
  | finite .. => true
  | _ => false

/-- The largest exponent a leading digit may have. -/
def maxAdjusted : Int := 999999999999999999

/-- The smallest exponent a last digit may have. -/
def minExponent : Int := -1999999999999999997

/-- Whether the exponents lie in the representable range. -/
def inRange (coeff : Nat) (exp : Int) : Bool :=
  if coeff = 0 then minExponent ≤ exp && exp ≤ maxAdjusted
  else minExponent ≤ exp && exp + digitCount coeff - 1 ≤ maxAdjusted

/-! ## Text -/

/-- Positional where the exponent is at most zero and at most five zeros follow the point, otherwise
scientific with one digit before the point. -/
def toText : Decimal → String
  | infinity s => if s then "-Infinity" else "Infinity"
  | nan q s payload =>
    (if s then "-" else "") ++ (if q then "sNaN" else "NaN")
      ++ (if payload = 0 then "" else decimalDigits payload)
  | finite s coeff exp =>
    let digits := Nat.toDigits 10 coeff
    let len : Int := digits.length
    let left := exp + len
    let positional := exp ≤ 0 && -6 < left
    let point := if positional then left else 1
    let body :=
      if point ≤ 0 then "0." ++ zeros (-point).toNat ++ String.ofList digits
      else if len ≤ point then String.ofList digits ++ zeros (point - len).toNat
      else String.ofList (digits.take point.toNat) ++ "." ++ String.ofList (digits.drop point.toNat)
    let tail :=
      if positional then ""
      else
        let e := left - point
        "E" ++ (if e < 0 then "-" else "+") ++ decimalDigits e.natAbs
    (if s then "-" else "") ++ body ++ tail

/-- Reads ASCII digits; `none` on any other character. -/
def digitsValue? (cs : List Char) : Option Nat :=
  cs.foldl (fun acc c => acc.bind fun n =>
    if c.isDigit then some (10 * n + (c.toNat - 48)) else none) (some 0)

/-- Trims blanks, drops every underscore, and writes digits of any script in ASCII. -/
def asciiForm (cs : List Char) : List Char :=
  let trimmed := trimBlanks cs
  (trimmed.filter (· ≠ '_')).map fun c =>
    match decimalValue? c with
    | some n => Char.ofNat (48 + n)
    | none => c

def lowerAscii (cs : List Char) : List Char := cs.map Char.toLower

/-- An optional sign and what follows it. -/
def splitSign : List Char → Bool × List Char
  | '-' :: rest => (true, rest)
  | '+' :: rest => (false, rest)
  | cs => (false, cs)

def readExponent? (cs : List Char) : Option Int :=
  let (negative, digits) := splitSign cs
  if digits.isEmpty then none
  else (digitsValue? digits).map fun n => if negative then -(n : Int) else n

/-- Digits with at most one point and an optional exponent, as a coefficient and a power of ten. -/
def readScaled? (cs : List Char) : Option (Nat × Int) := do
  let whole := cs.takeWhile Char.isDigit
  let rest := cs.dropWhile Char.isDigit
  let (fraction, rest) :=
    match rest with
    | '.' :: tail => (tail.takeWhile Char.isDigit, tail.dropWhile Char.isDigit)
    | _ => ([], rest)
  if whole.isEmpty && fraction.isEmpty then none
  let coeff ← digitsValue? (whole ++ fraction)
  let shift ←
    match rest with
    | [] => some 0
    | 'e' :: tail => readExponent? tail
    | _ => none
  some (coeff, shift - fraction.length)

/-- A number whose exponents are representable. -/
def readFinite? (negative : Bool) (cs : List Char) : Option Decimal :=
  (readScaled? cs).bind fun (coeff, exp) =>
    if inRange coeff exp then some (finite negative coeff exp) else none

/-- Reads a decimal number, an infinity, or a NaN. Case is ignored. -/
def ofChars? (cs : List Char) : Option Decimal :=
  let (negative, body) := splitSign (lowerAscii (asciiForm cs))
  if body = "inf".toList ∨ body = "infinity".toList then some (infinity negative)
  else
    let nanTail? (name : String) : Option (List Char) :=
      if name.toList.isPrefixOf body then some (body.drop name.length) else none
    match nanTail? "snan", nanTail? "nan" with
    | some tail, _ => (digitsValue? tail).map (nan true negative)
    | none, some tail => (digitsValue? tail).map (nan false negative)
    | none, none => readFinite? negative body

def ofText? (s : String) : Option Decimal := ofChars? s.toList

/-! ## Value -/

/-- The number nearest in binary; a NaN stays one. -/
def toBinary64 : Decimal → Binary64
  | finite s coeff exp => Binary64.ofScaled s coeff exp
  | infinity s => .infinity s
  | nan .. => .nan

def isIntegral : Decimal → Bool
  | finite _ coeff exp =>
    if 0 ≤ exp ∨ coeff = 0 then true
    else if digitCount coeff ≤ exp.natAbs then false
    else coeff % Nat.pow 10 exp.natAbs = 0
  | _ => false

/-- The integer part of a number of moderate size. -/
def truncate? : Decimal → Option Int
  | finite s coeff exp =>
    let n := if 0 ≤ exp then coeff * Nat.pow 10 exp.toNat
      else if digitCount coeff ≤ exp.natAbs then 0 else coeff / Nat.pow 10 exp.natAbs
    some (if s then -(n : Int) else n)
  | _ => none

/-- The order of `coeff * 10 ^ exp` and `num / den`, where the fraction is zero, at least
`10 ^ -400`, or an integer. -/
def compareMagnitude (coeff : Nat) (exp : Int) (num den : Nat) : Ordering :=
  if coeff = 0 then if num = 0 then .eq else .lt
  else if num = 0 then .gt
  else
    let top := exp + digitCount coeff
    if (digitCount (num / den) : Int) + 1 < top then .gt
    else if top < -400 then .lt
    else if 0 ≤ exp then compare (coeff * Nat.pow 10 exp.toNat * den) num
    else compare (coeff * den) (num * Nat.pow 10 exp.natAbs)

/-- The order of a finite decimal and the fraction `num / den`. -/
def compareRatio (s : Bool) (coeff : Nat) (exp : Int) (num : Int) (den : Nat) : Ordering :=
  let minus := s && coeff ≠ 0
  if minus then
    if 0 ≤ num then .lt else (compareMagnitude coeff exp num.natAbs den).swap
  else if num < 0 then .gt
  else compareMagnitude coeff exp num.natAbs den

/-! ## Form -/

def stripZeros : Nat → Nat → Int → Nat × Int
  | 0, c, e => (c, e)
  | steps + 1, c, e => if c % 10 = 0 then stripZeros steps (c / 10) (e + 1) else (c, e)

/-- The least power of ten that a rounded number keeps: a unit in the last of 28 digits of
`10 ^ -999999`. -/
def leastExponent : Int := -1000026

/-- The digits that rounding to 28 digits, or to the least exponent, takes off. -/
def excessDigits (coeff : Nat) (exp : Int) : Nat :=
  max (digitCount coeff - 28) (leastExponent - exp).toNat

/-- The number rounded to 28 digits, halves to even, without trailing zeros. -/
def normalize : Decimal → Decimal
  | finite s coeff exp =>
    let excess := excessDigits coeff exp
    let rounded :=
      if excess = 0 then coeff
      else if digitCount coeff < excess then 0
      else roundHalfEven coeff (Nat.pow 10 excess)
    if rounded = 0 then finite s 0 0
    else
      let (c, e) := stripZeros (digitCount rounded) rounded (exp + excess)
      finite s c e
  | d => d

/-- Digits in all and digits after the point, of a number written without an exponent. -/
def digitUse : Decimal → Nat × Nat
  | finite _ coeff exp =>
    if 0 ≤ exp then (digitCount coeff + exp.toNat, 0)
    else (max (digitCount coeff) exp.natAbs, exp.natAbs)
  | _ => (0, 0)

/-- Equality of value. -/
def sameValue : Decimal → Decimal → Bool
  | finite s c e, finite s' c' e' =>
    (c = 0 && c' = 0) ||
      (s = s' && c ≠ 0 && c' ≠ 0 && e + digitCount c = e' + digitCount c' &&
        (if e' ≤ e then c * Nat.pow 10 (e - e').toNat = c'
        else c = c' * Nat.pow 10 (e' - e).toNat))
  | infinity s, infinity s' => s = s'
  | _, _ => false

end Decimal

end EntityStore
