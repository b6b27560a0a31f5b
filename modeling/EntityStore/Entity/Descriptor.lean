import EntityStore.Entity.Kind
import EntityStore.Entity.Predicate

/-!
# Entity descriptors

A descriptor is the one description of an entity from which the validator, the table and the
statements follow: a name and its fields, each with a kind, rules for input and options for storage.
-/

namespace EntityStore

/-- The columns every table begins with, in table order. -/
def implicitColumns : List String := ["id", "created_at", "updated_at"]

structure Refinement where
  predicate : Predicate
  message : String

/-- A bound keeps the form it was given in: `1` and `1.0` are different bounds of one value. -/
inductive Bound where
  | int (n : Int)
  | float (x : Binary64)
  deriving DecidableEq, Repr

namespace Bound

def toValue : Bound → Value
  | int n => .int n
  | float x => .float x

def text : Bound → String
  | int n => toString n
  | float x => x.toText

end Bound

/-- A default as the descriptor gives it. -/
inductive Default where
  | bool (b : Bool)
  | int (n : Int)
  | float (x : Binary64)
  | text (s : String)
  deriving DecidableEq, Repr

namespace Default

def toValue : Default → Value
  | bool b => .bool b
  | int n => .int n
  | float x => .float x
  | text s => .text s

end Default

/-- What input must satisfy beyond its kind. -/
structure Rules where
  minLength : Option Nat := none
  maxLength : Option Nat := none
  pattern : Option String := none
  format : Option TextFormat := none
  integerOnly : Bool := false
  positive : Bool := false
  minimum : Option Bound := none
  maximum : Option Bound := none
  options : List String := []
  refine : List Refinement := []

/-- How the column is made. -/
structure Storage where
  type : Option StorageType := none
  length : Option Nat := none
  precision : Option Nat := none
  scale : Option Nat := none
  nullable : Option Bool := none
  unique : Bool := false
  index : Bool := false
  default : Option Default := none
  deriving DecidableEq, Repr

structure Field where
  name : String
  kind : FieldKind
  required : Bool := false
  rules : Rules := {}
  storage : Storage := {}
  label : Option String := none
  description : Option String := none
  placeholder : Option String := none

structure Descriptor where
  name : String
  fields : List Field := []
  title : Option String := none
  description : Option String := none

/-- The names by which rules are declared. -/
inductive RuleName where
  | minLength
  | maxLength
  | pattern
  | format
  | integerOnly
  | positive
  | minimum
  | maximum
  | options
  | refine
  deriving DecidableEq, Repr

namespace RuleName

def word : RuleName → String
  | minLength => "min_length"
  | maxLength => "max_length"
  | pattern => "pattern"
  | format => "format"
  | integerOnly => "integer_only"
  | positive => "positive"
  | minimum => "minimum"
  | maximum => "maximum"
  | options => "options"
  | refine => "refine"

end RuleName

namespace Rules

/-- The rules that were set, in the order of their names above. -/
def declared (r : Rules) : List RuleName :=
  ([(r.minLength.isSome, .minLength), (r.maxLength.isSome, .maxLength),
    (r.pattern.isSome, .pattern), (r.format.isSome, .format), (r.integerOnly, .integerOnly),
    (r.positive, .positive), (r.minimum.isSome, .minimum), (r.maximum.isSome, .maximum),
    (!r.options.isEmpty, .options), (!r.refine.isEmpty, .refine)] : List (Bool × RuleName)).filterMap
    fun (isSet, name) => if isSet then some name else none

end Rules

namespace FieldKind

/-- The rules that mean something for a kind. -/
def applicableRules : FieldKind → List RuleName
  | shortText | longText => [.minLength, .maxLength, .pattern, .format, .refine]
  | integer | decimal => [.integerOnly, .positive, .minimum, .maximum, .refine]
  | singleChoice => [.options, .refine]
  | boolean | date | timestamp | fileReference => [.refine]

end FieldKind

namespace Field

def storageType (f : Field) : StorageType := f.storage.type.getD f.kind.defaultStorage

/-- The length of a VARCHAR column. -/
def varcharLength? (f : Field) : Option Nat :=
  if f.storageType = .varchar then some (f.storage.length.getD f.kind.defaultLength) else none

def integerRange? (f : Field) : Option (Int × Int) := f.storageType.integerRange?

def hasDefault (f : Field) : Bool := f.storage.default.isSome

/-- Whether the column accepts null: as the field says, else when it is not required. -/
def isNullable (f : Field) : Bool := f.storage.nullable.getD (!f.required)

/-- Whether a full payload must supply the field. -/
def isMandatory (f : Field) : Bool := f.required && !f.hasDefault

end Field

namespace Descriptor

def fieldNames (d : Descriptor) : List String := d.fields.map (·.name)

/-- Every column in table order. -/
def columnNames (d : Descriptor) : List String := implicitColumns ++ d.fieldNames

def field? (d : Descriptor) (name : String) : Option Field := d.fields.find? (·.name = name)

end Descriptor

end EntityStore
