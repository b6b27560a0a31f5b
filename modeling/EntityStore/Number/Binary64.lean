/-!
# Binary64 numbers

A finite number is `± mant * 2 ^ exp` in its one normal form: `mant < 2 ^ 53`, and either
`2 ^ 52 ≤ mant` or `exp = -1074`. Beside the finite numbers stand two infinities and one NaN.
All arithmetic here is exact on naturals and integers and rounds once, at the end.
-/

namespace EntityStore

namespace Binary64

def minExponent : Int := -1074
def maxExponent : Int := 971

/-- Whether a mantissa and an exponent are the normal form of a number. -/
def isNormalForm (mant : Nat) (exp : Int) : Bool :=
  mant < Nat.pow 2 53
    && (exp = minExponent
      || (Nat.pow 2 52 ≤ mant && minExponent ≤ exp && exp ≤ maxExponent))

end Binary64

inductive Binary64 where
  | finite (negative : Bool) (mant : Nat) (exp : Int)
    (isNormal : Binary64.isNormalForm mant exp = true)
  | infinity (negative : Bool)
  | nan
  deriving DecidableEq, Repr, Inhabited

/-- The integer nearest to `num / den`; a half goes to the even neighbour. -/
def roundHalfEven (num den : Nat) : Nat :=
  let q := num / den
  let r := num % den
  if 2 * r < den then q
  else if den < 2 * r then q + 1
  else if q % 2 = 0 then q else q + 1

namespace Binary64

/-- The finite number of a normal form; no other form is a number. -/
def ofParts (negative : Bool) (mant : Nat) (exp : Int) : Binary64 :=
  if h : isNormalForm mant exp = true then finite negative mant exp h else nan

def signedZero (negative : Bool) : Binary64 := finite negative 0 minExponent (by decide)

def zero : Binary64 := signedZero false

/-- The rounded-down base two logarithm of `num / den`, both positive. -/
def binade (num den : Nat) : Int :=
  let t : Int := (num.log2 : Int) - (den.log2 : Int)
  let reached :=
    if 0 ≤ t then den * Nat.pow 2 t.toNat ≤ num else den ≤ num * Nat.pow 2 (-t).toNat
  if reached then t else t - 1

/-- A rounded mantissa may reach `2 ^ 53`, and an exponent past the largest is an overflow. -/
def pack (negative : Bool) (mant : Nat) (exp : Int) : Binary64 :=
  let (m, e) := if mant = Nat.pow 2 53 then (Nat.pow 2 52, exp + 1) else (mant, exp)
  if maxExponent < e then infinity negative else ofParts negative m e

/-- The number nearest to `± num / den`; a half goes to the even mantissa. -/
def ofRatio (negative : Bool) (num den : Nat) : Binary64 :=
  if num = 0 then signedZero negative
  else
    let e := max (binade num den - 52) minExponent
    let m :=
      if 0 ≤ e then roundHalfEven num (den * Nat.pow 2 e.toNat)
      else roundHalfEven (num * Nat.pow 2 (-e).toNat) den
    pack negative m e

def ofInt (n : Int) : Binary64 := ofRatio (decide (n < 0)) n.natAbs 1

/-- The number nearest to `± coeff * 10 ^ exp`. Scales far outside the range of finite numbers are
answered without building the power of ten. -/
def ofScaled (negative : Bool) (coeff : Nat) (exp : Int) : Binary64 :=
  if coeff = 0 then signedZero negative
  else
    let digits : Int := (Nat.toDigits 10 coeff).length
    if 400 < digits + exp then infinity negative
    else if digits + exp < -400 then signedZero negative
    else if 0 ≤ exp then ofRatio negative (coeff * Nat.pow 10 exp.toNat) 1
    else ofRatio negative coeff (Nat.pow 10 (-exp).toNat)

def isFinite : Binary64 → Bool
  | finite .. => true
  | _ => false

/-- The exact value, as a numerator over a positive denominator. -/
def ratio? : Binary64 → Option (Int × Nat)
  | finite s m e _ =>
    let signed : Int := if s then -(m : Int) else m
    if 0 ≤ e then some (signed * Nat.pow 2 e.toNat, 1) else some (signed, Nat.pow 2 (-e).toNat)
  | _ => none

def toRat? (x : Binary64) : Option Rat :=
  x.ratio?.map fun (n, d) => mkRat n d

/-- The integer part, toward zero. -/
def truncate? (x : Binary64) : Option Int :=
  x.ratio?.map fun (n, d) => Int.tdiv n d

def isIntegral (x : Binary64) : Bool :=
  match x.ratio? with
  | some (n, d) => n % d = 0
  | none => false

def ceil? (x : Binary64) : Option Int :=
  x.ratio?.map fun (n, d) => -(Int.fdiv (-n) d)

def neg : Binary64 → Binary64
  | finite s m e h => finite (!s) m e h
  | infinity s => infinity (!s)
  | nan => nan

/-- The product with a natural number, rounded once. -/
def scale (x : Binary64) (k : Nat) : Binary64 :=
  match x with
  | finite s m e _ =>
    if 0 ≤ e then ofRatio s (m * k * Nat.pow 2 e.toNat) 1
    else ofRatio s (m * k) (Nat.pow 2 (-e).toNat)
  | infinity s => if k = 0 then nan else infinity s
  | nan => nan

end Binary64

end EntityStore
