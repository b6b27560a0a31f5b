import EntityStore.Value

/-!
# Refinement predicates

A predicate is asked about the value that every built-in rule has passed. It holds or fails, or it
answers with an objection of its own; asked about a value it has no meaning for, it breaks.
-/

namespace EntityStore

/-- How a predicate breaks on a value that it has no meaning for. -/
inductive Breakage where
  | typeMismatch (message : String)
  | noSuchOperation (message : String)
  | tooManyDigits
  deriving DecidableEq, Repr

inductive Verdict where
  | holds
  | fails
  | refuses (message : String)
  | asserts (message : String)
  | breaks (how : Breakage)
  deriving DecidableEq, Repr

structure Predicate where
  name : String
  ask : Value → Verdict

namespace Predicate

def ofBool (b : Bool) : Verdict := if b then .holds else .fails

/-- The name of a value's type in messages. -/
def typeName : Value → String
  | .null => "NoneType"
  | .bool _ => "bool"
  | .int _ => "int"
  | .float _ => "float"
  | .decimal _ => "decimal.Decimal"
  | .text _ => "str"
  | .bytes _ => "bytes"
  | .date _ => "datetime.date"
  | .timestamp _ => "datetime.datetime"
  | .uuid _ => "UUID"
  | .list _ => "list"
  | .mapping _ => "dict"

def evenFloat (x : Binary64) : Bool :=
  match x.ratio? with
  | some (n, d) => n % (2 * d) = 0
  | none => false

/-- A remainder of more digits than a computation keeps cannot be found. -/
def evenDecimal (d : Decimal) : Verdict :=
  match d with
  | .finite _ coeff exp =>
    if coeff ≠ 0 ∧ 29 < exp + digitCount coeff then .breaks .tooManyDigits
    else
      ofBool (if 0 ≤ exp then coeff * Nat.pow 10 exp.toNat % 2 = 0
        else if coeff = 0 then true
        else if digitCount coeff < exp.natAbs then false
        else coeff % (2 * Nat.pow 10 exp.natAbs) = 0)
  | _ => .fails

def even (v : Value) : Verdict :=
  match v with
  | .int n => ofBool (n % 2 = 0)
  | .bool b => ofBool (!b)
  | .float x => ofBool (evenFloat x)
  | .decimal d => evenDecimal d
  | .text _ => .breaks (.typeMismatch "not all arguments converted during string formatting")
  | _ => .breaks (.typeMismatch
      ("unsupported operand type(s) for %: '" ++ typeName v ++ "' and 'int'"))

def lengthOf? : Value → Option Nat
  | .text s => some s.length
  | .bytes bs => some bs.length
  | .list items => some items.length
  | .mapping entries => some entries.length
  | _ => none

def noLength (v : Value) : Verdict :=
  .breaks (.typeMismatch ("object of type '" ++ typeName v ++ "' has no len()"))

def short (v : Value) : Verdict :=
  match lengthOf? v with
  | some n => ofBool (n ≤ 3)
  | none => noLength v

def length (v : Value) : Verdict :=
  match lengthOf? v with
  | some n => ofBool (n ≠ 0)
  | none => noLength v

def belowTen (x : Binary64) : Bool :=
  match x with
  | .infinity s => s
  | .nan => false
  | .finite .. =>
    match x.ratio? with
    | some (n, d) => n < 10 * d
    | none => false

def small (v : Value) : Verdict :=
  match v with
  | .int n => ofBool (n < 10)
  | .bool _ => .holds
  | .float x => ofBool (belowTen x)
  | .decimal (.finite s c e) => ofBool (Decimal.compareRatio s c e 10 1 = .lt)
  | .decimal (.infinity s) => ofBool s
  | _ => .breaks (.typeMismatch
      ("'<' not supported between instances of '" ++ typeName v ++ "' and 'int'"))

def weekday (v : Value) : Verdict :=
  match v with
  | .date d => ofBool (d.isoWeekday ≤ 5)
  | .timestamp t => ofBool (t.date.isoWeekday ≤ 5)
  | _ => .breaks (.noSuchOperation
      ("'" ++ typeName v ++ "' object has no attribute 'isoweekday'"))

def isTrue (v : Value) : Verdict :=
  match v with
  | .bool b => ofBool b
  | _ => .fails

/-- The predicates that descriptors may name. -/
def standard : List Predicate :=
  [⟨"even", even⟩, ⟨"short", short⟩, ⟨"small", small⟩, ⟨"weekday", weekday⟩,
    ⟨"is_true", isTrue⟩, ⟨"length", length⟩, ⟨"always", fun _ => .holds⟩,
    ⟨"never", fun _ => .fails⟩, ⟨"raise_value", fun _ => .refuses "refused \x7bx\x7d"⟩,
    ⟨"raise_assert", fun _ => .asserts "asserted"⟩,
    ⟨"raise_type", fun _ => .breaks (.typeMismatch "bad type")⟩]

def named? (name : String) : Option Predicate := standard.find? (·.name = name)

end Predicate

end EntityStore
