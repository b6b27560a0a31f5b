import EntityStore.Coercion
import EntityStore.Entity.Same
import EntityStore.Failure
import EntityStore.Pattern.Reader
import EntityStore.Pattern.Search
import EntityStore.Validation.WebAddress

/-!
# Rules of a field

A value that is given for a field is read in the form of the field's kind, held against the rules
the field declares and the limits of its column, and asked about by the field's predicates. The
first rule that fails names the cause. What passes is the value in the form in which it is stored.
-/

namespace EntityStore

/-- What ends a validation without an answer. -/
inductive Escape where
  | predicate (how : Breakage)
  /-- A decimal number has no place below or above a NaN. -/
  | unorderedBound
  /-- A moment whose year in universal time is no calendar year. -/
  | outOfCalendar
  deriving DecidableEq, Repr

namespace Escape

def failure : Escape → Failure
  | predicate (.typeMismatch m) => .plain .typeMismatch m
  | predicate (.noSuchOperation m) => .plain .noSuchOperation m
  | predicate .tooManyDigits =>
    .plain .invalidOperation "[<class 'decimal.DivisionImpossible'>]"
  | unorderedBound => .plain .invalidOperation "[<class 'decimal.InvalidOperation'>]"
  | outOfCalendar => .plain .overflow "date value out of range"

end Escape

inductive Stop where
  | refused (cause : Refusal)
  | escaped (e : Escape)
  deriving DecidableEq, Repr

/-- A value that passed, or what stopped it. -/
abbrev Ruled (α : Type) := Except Stop α

namespace Ruled

def refuse {α : Type} (cause : Refusal) : Ruled α := .error (.refused cause)

def ofRefusal {α : Type} : Except Refusal α → Ruled α
  | .ok a => .ok a
  | .error cause => refuse cause

def require (holds : Bool) (cause : Refusal) : Ruled Unit :=
  if holds then .ok () else refuse cause

end Ruled

namespace Rule

/-! ## Text -/

/-- The greatest length that both the rules and the column allow. -/
def mostCharacters (f : Field) : Option Nat :=
  match f.rules.maxLength, f.varcharLength? with
  | some n, some m => some (min n m)
  | some n, none => some n
  | none, m => m

def checkLength (least most : Option Nat) (s : String) : Ruled Unit := do
  if let some n := least then Ruled.require (n ≤ s.length) (.tooShort n)
  if let some n := most then Ruled.require (s.length ≤ n) (.tooLong n)

def hasPattern (pattern s : String) : Bool :=
  match Pattern.compile pattern with
  | .ok c => c.search s
  | .error _ => false

/-- A character of the parts of a mail address. -/
def isMailChar (c : Char) : Bool := c ≠ '@' && !isBlank c

/-- One `@` with something before it and, after it, a point with something on both sides; one line
break may end the text. -/
def isMailAddress (s : String) : Bool :=
  let cs := if s.toList.getLast? = some '\n' then s.toList.dropLast else s.toList
  let user := cs.takeWhile isMailChar
  match cs.dropWhile isMailChar with
  | '@' :: domain =>
    !user.isEmpty && domain.all isMailChar && (domain.drop 1).dropLast.contains '.'
  | _ => false

def checkFormat (format : Option TextFormat) (s : String) : Ruled Unit :=
  match format with
  | none => .ok ()
  | some .email => Ruled.require (isMailAddress s) .notEmail
  | some .url => Ruled.require (WebAddress.namesHost s) .notUrl

def readText : Value → Ruled String
  | .text s => .ok s
  | _ => Ruled.refuse .notText

def text (f : Field) (v : Value) : Ruled Value := do
  let s ← readText v
  checkLength f.rules.minLength (mostCharacters f) s
  if let some p := f.rules.pattern then Ruled.require (hasPattern p s) (.patternMismatch p)
  checkFormat f.rules.format s
  return .text s

def fileReference (f : Field) (v : Value) : Ruled Value := do
  let s ← readText v
  checkLength none f.varcharLength? s
  return .text s

def choice (f : Field) (v : Value) : Ruled Value :=
  match v with
  | .text s =>
    if f.rules.options.contains s then .ok (.text s) else Ruled.refuse (.notOneOf f.rules.options)
  | _ => Ruled.refuse (.notOneOf f.rules.options)

/-! ## Numbers -/

def rejectBoolean : Value → Ruled Unit
  | .bool _ => Ruled.refuse .booleanAsNumber
  | _ => .ok ()

def boundOrder? (a b : Bound) : Option Ordering :=
  if a.less b then some .lt else if b.less a then some .gt else if a.same b then some .eq else none

/-- The order of a number and a bound, if they have one. -/
def order? (v : Value) (b : Bound) : Ruled (Option Ordering) :=
  match v with
  | .int n => .ok (boundOrder? (.int n) b)
  | .float x => .ok (boundOrder? (.float x) b)
  | .decimal (.finite s c e) =>
    match b with
    | .int n => .ok (some (Decimal.compareRatio s c e n 1))
    | .float (.infinity negative) => .ok (some (if negative then .gt else .lt))
    | .float .nan => .error (.escaped .unorderedBound)
    | .float x => .ok (x.ratio?.map fun (n, d) => Decimal.compareRatio s c e n d)
  | _ => .ok none

def checkBounds (r : Rules) (v : Value) : Ruled Unit := do
  if r.positive then
    let o ← order? v (.int 0)
    Ruled.require (o = some .gt) .notPositive
  if let some b := r.minimum then
    let o ← order? v b
    Ruled.require (o ≠ some .lt) (.belowMinimum b.text)
  if let some b := r.maximum then
    let o ← order? v b
    Ruled.require (o ≠ some .gt) (.aboveMaximum b.text)

def checkRange (f : Field) (n : Int) : Ruled Unit :=
  match f.integerRange? with
  | none => .ok ()
  | some (low, high) =>
    Ruled.require (low ≤ n && n ≤ high) (.outsideColumn f.storageType.word low high)

def integer (f : Field) (v : Value) : Ruled Value := do
  rejectBoolean v
  let n ← Ruled.ofRefusal (Coercion.integer v)
  checkBounds f.rules (.int n)
  checkRange f n
  return .int n

/-- Whether a number in a binary or decimal column is whole. -/
def isWhole : Value → Bool
  | .float x => x.isIntegral
  | .decimal d => d.isIntegral
  | _ => true

def checkNumber (f : Field) (v : Value) : Ruled Value := do
  if f.rules.integerOnly then Ruled.require (isWhole v) .notWhole
  checkBounds f.rules v
  return v

def binary (f : Field) (v : Value) : Ruled Value := do
  let x ← Ruled.ofRefusal (Coercion.float v)
  Ruled.require x.isFinite .notFinite
  checkNumber f (.float x)

/-- Reads a decimal number; a binary one by its shortest text. -/
def readDecimal : Value → Ruled Decimal
  | .int n => .ok (Decimal.ofInt n)
  | .decimal d => .ok d
  | .float x => ofText x.toText
  | .text s => ofText s
  | _ => Ruled.refuse .notDecimal
where
  ofText (s : String) : Ruled Decimal :=
    match Decimal.ofText? s with
    | some d => .ok d
    | none => Ruled.refuse .decimalText

/-- At most `precision` digits, of which `scale` may follow the point. A limit counts as kept if
either the number as it is written or its shortest form keeps it. -/
def checkDigits (precision scale : Nat) (d : Decimal) : Ruled Unit := do
  let (digits, places) := d.digitUse
  let (digits', places') := d.normalize.digitUse
  Ruled.require (digits ≤ precision || digits' ≤ precision) (.totalDigits precision)
  Ruled.require (places ≤ scale || places' ≤ scale) (.fractionDigits scale)
  let whole := precision - scale
  Ruled.require (digits - places ≤ whole || digits' - places' ≤ whole) (.wholeDigits whole)

def exact (f : Field) (v : Value) : Ruled Value := do
  let d ← readDecimal v
  Ruled.require d.isFinite .notFinite
  if let some p := f.storage.precision then checkDigits p (f.storage.scale.getD 0) d
  checkNumber f (.decimal d)

def decimal (f : Field) (v : Value) : Ruled Value := do
  rejectBoolean v
  if f.storageType.isBinary then binary f v else exact f v

/-! ## Flags, dates and moments -/

def boolean (v : Value) : Ruled Value :=
  match v with
  | .bool b => .ok (.bool b)
  | _ => Ruled.refuse .notBoolean

def date (v : Value) : Ruled Value :=
  match v with
  | .date d => .ok (.date d)
  | .timestamp _ => Ruled.refuse .timestampAsDate
  | .text s =>
    match Iso.date? s with
    | some d => .ok (.date d)
    | none => Ruled.refuse (.dateText s)
  | _ => Ruled.refuse .notDateText

def readTimestamp (v : Value) : Ruled Timestamp :=
  match v with
  | .timestamp t => .ok t
  | .date _ => Ruled.refuse .dateAsTimestamp
  | .text s =>
    match Iso.timestamp? s with
    | some t => .ok t
    | none => Ruled.refuse (.timestampText s)
  | _ => Ruled.refuse .notTimestampText

def timestamp (v : Value) : Ruled Value := do
  let t ← readTimestamp v
  match t.toUtc? with
  | some u => return .timestamp u
  | none => throw (.escaped .outOfCalendar)

/-! ## The field -/

/-- The rules of the kind. -/
def builtIn (f : Field) (v : Value) : Ruled Value :=
  match f.kind with
  | .shortText | .longText => text f v
  | .integer => integer f v
  | .decimal => decimal f v
  | .boolean => boolean v
  | .date => date v
  | .timestamp => timestamp v
  | .singleChoice => choice f v
  | .fileReference => fileReference f v

def refine (v : Value) (r : Refinement) : Ruled Unit :=
  match r.predicate.ask v with
  | .holds => .ok ()
  | .fails => Ruled.refuse (.refinement r.message)
  | .refuses m => Ruled.refuse (.predicateRefused m)
  | .asserts m => Ruled.refuse (.predicateAsserted m)
  | .breaks how => .error (.escaped (.predicate how))

/-- The stored form of a value that is not null. -/
def present (f : Field) (v : Value) : Ruled Value := do
  let stored ← builtIn f v
  f.rules.refine.forM (refine stored)
  return stored

/-- Null passes where the field is optional and its column accepts null. -/
def value (f : Field) (v : Value) : Ruled Value :=
  match v with
  | .null => if !f.required && f.isNullable then .ok .null else Ruled.refuse .nullNotAllowed
  | v => present f v

end Rule

end EntityStore
