import EntityStore.Number.Binary64

/-!
# Shortest decimal text

A finite binary64 number is written with the fewest decimal digits that read back as it, and of
those with the digits nearest to it. `Binary64.shortest` finds the digits by exact arithmetic:
on the grid of one digit, of two digits, and so on up to seventeen, it tests the two grid points
next to the number against the interval of reals that round to it. `Binary64.toText` lays the
digits out.
-/

namespace EntityStore

namespace Binary64

/-- The rounded-down decimal logarithm of `num / den`, both positive. -/
def floorLog10 (num den : Nat) : Int :=
  let estimate : Int := Int.fdiv (binade num den * 1233) 4096
  let reached (k : Int) : Bool :=
    if 0 ≤ k then den * Nat.pow 10 k.toNat ≤ num else den ≤ num * Nat.pow 10 (-k).toNat
  (([estimate + 2, estimate + 1, estimate, estimate - 1, estimate - 2].find? reached).getD estimate)

/-- The reals that round to `mant * 2 ^ exp`, in quarters of the last place: both ends, and whether
they belong to the interval. -/
def roundingInterval (mant : Nat) (exp : Int) : Nat × Nat × Bool :=
  let low := if mant = Nat.pow 2 52 ∧ minExponent < exp then 4 * mant - 1 else 4 * mant - 2
  (low, 4 * mant + 2, mant % 2 = 0)

/-- The decimal grid point nearest to the number among those that read back as it, on the grid with
step `10 ^ p`. -/
def nearestOnGrid (mant : Nat) (exp : Int) (p : Int) : Option Nat :=
  let q := exp - 2
  let unit := if 0 ≤ q then Nat.pow 2 q.toNat else 1
  let den := if 0 ≤ q then 1 else Nat.pow 2 (-q).toNat
  let step := if 0 ≤ p then den * Nat.pow 10 p.toNat else den
  let scale := if 0 ≤ p then unit else unit * Nat.pow 10 (-p).toNat
  let (low, high, closed) := roundingInterval mant exp
  let value := 4 * mant * scale
  let inside (d : Nat) : Bool :=
    let x := d * step
    if closed then low * scale ≤ x && x ≤ high * scale else low * scale < x && x < high * scale
  let below := value / step
  let above := below + 1
  match inside below, inside above with
  | true, true =>
    let down := value - below * step
    let up := above * step - value
    if down < up then some below
    else if up < down then some above
    else if below % 2 = 0 then some below else some above
  | true, false => some below
  | false, true => some above
  | false, false => none

def dropTrailingZeros : Nat → Nat → Int → Nat × Int
  | 0, d, p => (d, p)
  | fuel + 1, d, p => if d ≠ 0 ∧ d % 10 = 0 then dropTrailingZeros fuel (d / 10) (p + 1) else (d, p)

/-- The digits `d` and the place `p` of the shortest decimal `d * 10 ^ p` for `mant * 2 ^ exp`. -/
def shortest (mant : Nat) (exp : Int) : Nat × Int :=
  if mant = 0 then (0, 0)
  else
    let (num, den) := if 0 ≤ exp then (mant * Nat.pow 2 exp.toNat, 1) else (mant, Nat.pow 2 (-exp).toNat)
    let k := floorLog10 num den
    let hit := (List.range 17).findSome? fun (n : Nat) =>
      (nearestOnGrid mant exp (k - n)).map fun d => dropTrailingZeros 18 d (k - n)
    hit.getD (mant, exp)

end Binary64

/-- Decimal digits of `n`, at least one. -/
def decimalDigits (n : Nat) : String := String.ofList (Nat.toDigits 10 n)

def zeros (n : Nat) : String := String.ofList (List.replicate n '0')

/-- An exponent with its sign and at least two digits. -/
def exponentText (e : Int) : String :=
  let digits := decimalDigits e.natAbs
  (if e < 0 then "-" else "+") ++ (if digits.length < 2 then "0" ++ digits else digits)

namespace Binary64

/-- Positional from `1e-4` up to below `1e16`, always with a fractional digit; scientific outside. -/
def toText : Binary64 → String
  | nan => "nan"
  | infinity s => if s then "-inf" else "inf"
  | finite s m e _ =>
    let (d, p) := shortest m e
    let digits := decimalDigits d
    let len := digits.length
    let point : Int := len + p
    let body :=
      if -3 ≤ point ∧ point ≤ 16 then
        if point ≤ 0 then "0." ++ zeros (-point).toNat ++ digits
        else if (len : Int) ≤ point then digits ++ zeros (point - len).toNat ++ ".0"
        else
          let k := point.toNat
          String.ofList (digits.toList.take k) ++ "." ++ String.ofList (digits.toList.drop k)
      else
        let mantissa :=
          match digits.toList with
          | c :: [] => String.ofList [c]
          | c :: rest => String.ofList (c :: '.' :: rest)
          | [] => ""
        mantissa ++ "e" ++ exponentText (point - 1)
    (if s then "-" else "") ++ body

/-- Exactly `places` digits after the point, the last one rounded with halves to even. -/
def toFixed (places : Nat) : Binary64 → String
  | nan => "nan"
  | infinity s => if s then "-inf" else "inf"
  | finite s m e _ =>
    let n :=
      if 0 ≤ e then m * Nat.pow 2 e.toNat * Nat.pow 10 places
      else roundHalfEven (m * Nat.pow 10 places) (Nat.pow 2 (-e).toNat)
    let digits := decimalDigits n
    let padded := zeros (places + 1 - digits.length) ++ digits
    let whole := padded.length - places
    let body := String.ofList (padded.toList.take whole)
    let fraction := String.ofList (padded.toList.drop whole)
    (if s then "-" else "") ++ body ++ (if places = 0 then "" else "." ++ fraction)

end Binary64

end EntityStore
