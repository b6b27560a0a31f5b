import EntityStore.Number.Whole
import EntityStore.Refusal
import EntityStore.Value
import EntityStore.Text.Utf8

/-!
# Lenient readings of values

Settings and descriptors come from files and environment variables, so a number may be given as
text and a flag as a word. Each function here reads one type and says why a value cannot be read
as it. Number texts are ASCII; single underscores may stand between digits.
-/

namespace EntityStore

namespace Coercion

def trimWhiteSpace (cs : List Char) : List Char :=
  ((cs.dropWhile isWhiteSpace).reverse.dropWhile isWhiteSpace).reverse

/-- Texts, and bytes that hold UTF-8. -/
def textLike? : Value → Option (Except Refusal String)
  | .text s => some (.ok s)
  | .bytes bs =>
    match Utf8.decode? bs with
    | some s => some (.ok s)
    | none => some (.error .notUtf8)
  | _ => none

def text (v : Value) : Except Refusal String := (textLike? v).getD (.error .notText)

/-! ## Whole numbers -/

/-- Drops the zeros, and underscores among them, in front of a number. -/
def stripLeadingZeros : List Char → Option (List Char)
  | '0' :: rest =>
    let tail := rest.dropWhile fun c => c = '0' || c = '_'
    match tail with
    | [] => some [((('0' :: rest).getLast?).getD '0')]
    | '.' :: _ => some ((rest.take (rest.length - tail.length)).getLast?.getD '0' :: tail)
    | c :: _ => if c.isDigit then some tail else none
  | c :: rest => if c.isDigit || c = '-' then some (c :: rest) else none
  | [] => none

/-- Drops a point with at least one zero, and only zeros, after it. -/
def stripZeroFraction (cs : List Char) : List Char :=
  let whole := cs.takeWhile (· ≠ '.')
  match cs.dropWhile (· ≠ '.') with
  | '.' :: fraction => if fraction ≠ [] ∧ fraction.all (· = '0') then whole else cs
  | _ => cs

def hasDoubleUnderscore : List Char → Bool
  | '_' :: '_' :: _ => true
  | _ :: rest => hasDoubleUnderscore rest
  | [] => false

/-- Drops underscores, none of which may be first, last or next to another. -/
def stripUnderscores? (cs : List Char) : Option (List Char) :=
  if cs.head? = some '_' ∨ cs.getLast? = some '_' ∨ hasDoubleUnderscore cs then none
  else some (cs.filter (· ≠ '_'))

def plainInteger? (cs : List Char) : Option Int :=
  let (negative, digits) := match cs with
    | '-' :: rest => (true, rest)
    | _ => (false, cs)
  if digits.isEmpty then none
  else (Decimal.digitsValue? digits).map fun n => if negative then -(n : Int) else n

def maxIntegerText : Nat := 4300

def integerOfText (s : String) : Except Refusal Int :=
  let trimmed := trimWhiteSpace s.toList
  let unsigned := match trimmed with
    | '+' :: rest => if rest.head? = some '-' then none else some rest
    | cs => some cs
  let cleaned := (unsigned.bind stripLeadingZeros).bind fun cs =>
    stripUnderscores? (stripZeroFraction cs)
  match cleaned with
  | none => .error .integerText
  | some cs =>
    match plainInteger? cs with
    | none => .error .integerText
    | some n => if maxIntegerText < cs.length then .error .integerTooLarge else .ok n

/-- The integer that a binary number is, within 64 bits. -/
def integerOfFloat (x : Binary64) : Except Refusal Int :=
  match x.ratio? with
  | none => .error .notFinite
  | some (n, d) =>
    if n % d ≠ 0 then .error .fraction
    else
      let k := n / d
      if -signedBound 64 < k ∧ k < signedBound 64 then .ok k else .error .integerTooLarge

def integer (v : Value) : Except Refusal Int :=
  match v with
  | .bool b => .ok (if b then 1 else 0)
  | .int n => .ok n
  | .float x => integerOfFloat x
  | .decimal d =>
    match d.truncate? with
    | none => .error .notFinite
    | some n => if d.isIntegral then .ok n else .error .fraction
  | _ =>
    match textLike? v with
    | some (.ok s) => integerOfText s
    | some (.error _) => .error .integerText
    | none => .error .notInteger

/-! ## Binary numbers -/

def readFloat? (cs : List Char) : Option Binary64 :=
  let (negative, body) := Decimal.splitSign cs
  let name := String.ofList (Decimal.lowerAscii body)
  if name = "inf" ∨ name = "infinity" then some (.infinity negative)
  else if name = "nan" then some .nan
  else
    (Decimal.readScaled? (Decimal.lowerAscii body)).map fun (coeff, exp) =>
      Binary64.ofScaled negative coeff exp

def floatOfText (s : String) : Except Refusal Binary64 :=
  let cs := trimWhiteSpace s.toList
  match readFloat? cs with
  | some x => .ok x
  | none =>
    match (stripUnderscores? cs).bind readFloat? with
    | some x => .ok x
    | none => .error .numberText

def float (v : Value) : Except Refusal Binary64 :=
  match v with
  | .bool b => .ok (Binary64.ofInt (if b then 1 else 0))
  | .int n =>
    match Binary64.ofInt n with
    | .infinity _ => .error .notNumber
    | x => .ok x
  | .float x => .ok x
  | .decimal (.nan true ..) => .error .notNumber
  | .decimal d => .ok d.toBinary64
  | _ =>
    match textLike? v with
    | some (.ok s) => floatOfText s
    | some (.error _) => .error .numberText
    | none => .error .notNumber

/-! ## Flags -/

def booleanWords : List (String × Bool) :=
  [("0", false), ("off", false), ("f", false), ("false", false), ("n", false), ("no", false),
    ("1", true), ("on", true), ("t", true), ("true", true), ("y", true), ("yes", true)]

def booleanOfInt (n : Int) : Except Refusal Bool :=
  if n = 0 then .ok false else if n = 1 then .ok true else .error .booleanText

def boolean (v : Value) : Except Refusal Bool :=
  let ofFloat (x : Binary64) : Except Refusal Bool :=
    match integerOfFloat x with
    | .ok n => booleanOfInt n
    | .error _ => .error .notBoolean
  match v with
  | .bool b => .ok b
  | .int n => booleanOfInt n
  | .float x => ofFloat x
  | .decimal d => ofFloat d.toBinary64
  | _ =>
    match textLike? v with
    | some (.ok s) =>
      match booleanWords.lookup (String.ofList (Decimal.lowerAscii s.toList)) with
      | some b => .ok b
      | none => .error .booleanText
    | some (.error _) => .error .booleanText
    | none => .error .notBoolean

end Coercion

end EntityStore
