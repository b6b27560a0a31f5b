import EntityStore.Number.Decimal
import EntityStore.Number.Shortest
import EntityStore.Schema.Table

/-!
# Cells

What a column of a row holds: nothing, an integer of 64 bits, a binary number, or a text. Cells are
ordered by kind first, then by value; an integer and a binary number are one kind and compare
exactly. A column converts what it is given by its affinity, where no information is lost.
-/

namespace EntityStore

namespace Database

inductive Cell where
  | null
  | int (n : Int)
  | real (x : Binary64)
  | text (s : String)
  deriving DecidableEq, Repr, Inhabited

namespace Cell

def isNull : Cell → Bool
  | null => true
  | _ => false

/-! ## Order -/

/-- A number as a fraction; an infinity stands beyond all of them, on its side of zero. -/
inductive Magnitude where
  | below
  | ratio (num : Int) (den : Nat)
  | above

def magnitude : Binary64 → Magnitude
  | .infinity negative => if negative then .below else .above
  | x =>
    match x.ratio? with
    | some (num, den) => .ratio num den
    | none => .ratio 0 1

def Magnitude.compare : Magnitude → Magnitude → Ordering
  | ratio m d, ratio n e => Ord.compare (m * e) (n * d)
  | below, below | above, above => .eq
  | below, _ | _, above => .lt
  | above, _ | _, below => .gt

/-- Nothing comes before numbers, and numbers before texts. Texts compare by their code points. -/
def compare : Cell → Cell → Ordering
  | null, null => .eq
  | null, _ => .lt
  | _, null => .gt
  | text s, text t => Ord.compare s t
  | text _, _ => .gt
  | _, text _ => .lt
  | int m, int n => Ord.compare m n
  | int m, real y => (Magnitude.ratio m 1).compare (magnitude y)
  | real x, int n => (magnitude x).compare (.ratio n 1)
  | real x, real y => (magnitude x).compare (magnitude y)

/-- Equality of values; nothing equals nothing else, not even nothing. -/
def equals (a b : Cell) : Bool := !a.isNull && !b.isNull && a.compare b = .eq

/-! ## Conversion -/

def minInt : Int := -9223372036854775808
def maxInt : Int := 9223372036854775807

def fitsInt (n : Int) : Bool := minInt ≤ n && n ≤ maxInt

/-- A whole number as an integer, unless it is as large as any. -/
def wholeReal (x : Binary64) : Cell :=
  match x.ratio? with
  | some (num, den) =>
    if num % den = 0 ∧ minInt < num / den ∧ num / den < maxInt then int (num / den) else real x
  | none => real x

def isTextSpace (c : Char) : Bool :=
  c = ' ' || c = '\t' || c = '\n' || c = '\r' || c = '\x0b' || c = '\x0c'

/-- The number that a text spells, blanks around it aside. -/
def numberOfText? (s : String) : Option Cell :=
  let trimmed := ((s.toList.dropWhile isTextSpace).reverse.dropWhile isTextSpace).reverse
  let (negative, body) := Decimal.splitSign trimmed
  let spelled := body.map fun c => if c = 'E' then 'e' else c
  match Decimal.readScaled? spelled with
  | none => none
  | some (coeff, exp) =>
    let signed : Int := if negative then -(coeff : Int) else coeff
    if body.all Char.isDigit ∧ fitsInt signed then some (int signed)
    else some (real (Binary64.ofScaled negative coeff exp))

/-- At most fifteen digits, with at least one after the point. -/
def realText : Binary64 → String
  | .nan => ""
  | .infinity negative => if negative then "-Inf" else "Inf"
  | .finite _ 0 _ _ => "0.0"
  | x@(.finite negative _ _ _) =>
    match x.ratio? with
    | none => ""
    | some (num, den) =>
      let low := Binary64.floorLog10 num.natAbs den
      let place := low - 14
      let digits :=
        if 0 ≤ place then roundHalfUp num.natAbs (den * Nat.pow 10 place.toNat)
        else roundHalfUp (num.natAbs * Nat.pow 10 (-place).toNat) den
      let (d, p) := Binary64.dropTrailingZeros 16 digits place
      let shown := decimalDigits d
      let point : Int := shown.length + p
      let body :=
        if -4 < point ∧ point ≤ 15 then
          if point ≤ 0 then "0." ++ zeros (-point).toNat ++ shown
          else if (shown.length : Int) ≤ point then
            shown ++ zeros (point - shown.length).toNat ++ ".0"
          else
            String.ofList (shown.toList.take point.toNat) ++ "."
              ++ String.ofList (shown.toList.drop point.toNat)
        else
          let rest := shown.toList.drop 1
          String.ofList (shown.toList.take 1) ++ "."
            ++ (if rest.isEmpty then "0" else String.ofList rest) ++ "e" ++ exponentText (point - 1)
      (if negative then "-" else "") ++ body
where
  roundHalfUp (num den : Nat) : Nat := (2 * num + den) / (2 * den)

end Cell

/-- What a column makes of the cells it is given. -/
inductive Affinity where
  | text
  | numeric
  | real
  deriving DecidableEq, Repr

namespace Affinity

/-- Dates and timestamps are texts that no number spells, so a numeric column keeps them. -/
def ofType : ColumnType → Affinity
  | .varchar _ | .text => text
  | .real | .double => real
  | _ => numeric

/-- A number where the cell is one or spells one, whole numbers as integers. -/
def toNumber : Cell → Cell
  | .text s =>
    match Cell.numberOfText? s with
    | some (.real x) => Cell.wholeReal x
    | some n => n
    | none => .text s
  | .real x => Cell.wholeReal x
  | c => c

def apply : Affinity → Cell → Cell
  | text, .int n => .text (toString n)
  | text, .real x => .text (Cell.realText x)
  | text, c => c
  | numeric, c => toNumber c
  | real, c =>
    match toNumber c with
    | .int n => .real (Binary64.ofInt n)
    | c => c

/-- What a cell is converted to before it is compared with a column. A binary column compares
numbers as they are. -/
def applyToOperand : Affinity → Cell → Cell
  | text, c => apply text c
  | _, c =>
    match c with
    | .text s => toNumber (.text s)
    | c => c

end Affinity

end Database

end EntityStore
