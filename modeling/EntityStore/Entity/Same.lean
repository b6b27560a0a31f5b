import EntityStore.Entity.Descriptor

/-!
# Equal descriptors

Two descriptors are the same when their parts have the same values: truth values, integers and
binary numbers compare by value, so `true`, `1` and `1.0` are one default. A NaN is the same as
nothing. What is derived from a descriptor is kept for every descriptor that is the same.
-/

namespace EntityStore

namespace Binary64

/-- Equality of value: the two zeros are equal, a NaN is not equal to itself. -/
def sameValue (x y : Binary64) : Bool :=
  match x, y with
  | nan, _ | _, nan => false
  | finite _ 0 _ _, finite _ 0 _ _ => true
  | x, y => x = y

/-- Whether the number is the integer `n`. -/
def isInt (x : Binary64) (n : Int) : Bool :=
  match x.ratio? with
  | some (num, den) => num = n * den
  | none => false

end Binary64

namespace Bound

def same : Bound → Bound → Bool
  | int m, int n => m = n
  | int m, float y => y.isInt m
  | float x, int n => x.isInt n
  | float x, float y => x.sameValue y

/-- Numerator and positive denominator of a finite bound. -/
def ratio? : Bound → Option (Int × Nat)
  | int n => some (n, 1)
  | float x => x.ratio?

/-- The order of values; nothing is below or above a NaN. -/
def less (a b : Bound) : Bool :=
  match a.ratio?, b.ratio? with
  | some (m, d), some (n, e) => m * e < n * d
  | _, _ =>
    match a, b with
    | float .nan, _ | _, float .nan => false
    | float (.infinity s), float (.infinity s') => s && !s'
    | float (.infinity s), _ => s
    | _, float (.infinity s) => !s
    | _, _ => false

end Bound

namespace Default

/-- A truth value counts as one or zero. -/
def bound? : Default → Option Bound
  | bool b => some (.int (if b then 1 else 0))
  | int n => some (.int n)
  | float x => some (.float x)
  | text _ => none

def same (a b : Default) : Bool :=
  match a, b with
  | text s, text t => s = t
  | _, _ =>
    match a.bound?, b.bound? with
    | some x, some y => x.same y
    | _, _ => false

end Default

/-- Equality of optional parts by an equality of the parts. -/
def sameOption {α : Type} (same : α → α → Bool) : Option α → Option α → Bool
  | none, none => true
  | some a, some b => same a b
  | _, _ => false

def sameList {α : Type} (same : α → α → Bool) : List α → List α → Bool
  | [], [] => true
  | a :: as, b :: bs => same a b && sameList same as bs
  | _, _ => false

namespace Refinement

def same (a b : Refinement) : Bool :=
  a.predicate.name = b.predicate.name && a.message = b.message

end Refinement

namespace Rules

def same (a b : Rules) : Bool :=
  a.minLength = b.minLength && a.maxLength = b.maxLength && a.pattern = b.pattern
    && a.format = b.format && a.integerOnly = b.integerOnly && a.positive = b.positive
    && sameOption Bound.same a.minimum b.minimum && sameOption Bound.same a.maximum b.maximum
    && a.options = b.options && sameList Refinement.same a.refine b.refine

end Rules

namespace Storage

def same (a b : Storage) : Bool :=
  a.type = b.type && a.length = b.length && a.precision = b.precision && a.scale = b.scale
    && a.nullable = b.nullable && a.unique = b.unique && a.index = b.index
    && sameOption Default.same a.default b.default

end Storage

namespace Field

def same (a b : Field) : Bool :=
  a.name = b.name && a.kind = b.kind && a.required = b.required && a.rules.same b.rules
    && a.storage.same b.storage && a.label = b.label && a.description = b.description
    && a.placeholder = b.placeholder

end Field

namespace Descriptor

def same (a b : Descriptor) : Bool :=
  a.name = b.name && sameList Field.same a.fields b.fields && a.title = b.title
    && a.description = b.description

end Descriptor

end EntityStore
