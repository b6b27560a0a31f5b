import EntityStore.Number.Whole

/-!
# Kinds, column types and directions

The closed vocabularies of descriptors and queries, with the words that stand for them.
-/

namespace EntityStore

/-- What a field means. -/
inductive FieldKind where
  | shortText
  | longText
  | integer
  | decimal
  | boolean
  | date
  | timestamp
  | singleChoice
  | fileReference
  deriving DecidableEq, Repr, Inhabited

namespace FieldKind

def all : List FieldKind :=
  [shortText, longText, integer, decimal, boolean, date, timestamp, singleChoice, fileReference]

def word : FieldKind → String
  | shortText => "short_text"
  | longText => "long_text"
  | integer => "integer"
  | decimal => "decimal"
  | boolean => "boolean"
  | date => "date"
  | timestamp => "timestamp"
  | singleChoice => "single_choice"
  | fileReference => "file_reference"

def ofWord? (w : String) : Option FieldKind := all.find? (·.word = w)

theorem ofWord?_word (k : FieldKind) : ofWord? k.word = some k := by
  cases k <;> decide

end FieldKind

/-- How a column stores its values. -/
inductive StorageType where
  | varchar
  | text
  | integer
  | bigint
  | smallint
  | decimal
  | numeric
  | real
  | doublePrecision
  | date
  | timestamp
  | boolean
  deriving DecidableEq, Repr, Inhabited

namespace StorageType

def all : List StorageType :=
  [varchar, text, integer, bigint, smallint, decimal, numeric, real, doublePrecision, date,
    timestamp, boolean]

def word : StorageType → String
  | varchar => "VARCHAR"
  | text => "TEXT"
  | integer => "INTEGER"
  | bigint => "BIGINT"
  | smallint => "SMALLINT"
  | decimal => "DECIMAL"
  | numeric => "NUMERIC"
  | real => "REAL"
  | doublePrecision => "DOUBLE_PRECISION"
  | date => "DATE"
  | timestamp => "TIMESTAMP"
  | boolean => "BOOLEAN"

def ofWord? (w : String) : Option StorageType := all.find? (·.word = w)

theorem ofWord?_word (t : StorageType) : ofWord? t.word = some t := by
  cases t <;> decide

/-- The inclusive range of an integer column. -/
def integerRange? : StorageType → Option (Int × Int)
  | smallint => some (-signedBound 16, signedBound 16 - 1)
  | integer => some (-signedBound 32, signedBound 32 - 1)
  | bigint => some (-signedBound 64, signedBound 64 - 1)
  | _ => none

/-- Whether precision and scale apply. -/
def hasPrecision : StorageType → Bool
  | numeric | decimal => true
  | _ => false

def isBinary : StorageType → Bool
  | real | doublePrecision => true
  | _ => false

end StorageType

inductive TextFormat where
  | email
  | url
  deriving DecidableEq, Repr

namespace TextFormat

def all : List TextFormat := [email, url]

def word : TextFormat → String
  | email => "email"
  | url => "url"

def ofWord? (w : String) : Option TextFormat := all.find? (·.word = w)

end TextFormat

inductive SortDirection where
  | ascending
  | descending
  deriving DecidableEq, Repr, Inhabited

namespace SortDirection

def all : List SortDirection := [ascending, descending]

def word : SortDirection → String
  | ascending => "asc"
  | descending => "desc"

def ofWord? (w : String) : Option SortDirection := all.find? (·.word = w)

def orient : SortDirection → Ordering → Ordering
  | ascending, o => o
  | descending, o => o.swap

end SortDirection

namespace FieldKind

/-- The column type of a field that names none. -/
def defaultStorage : FieldKind → StorageType
  | shortText => .varchar
  | longText => .text
  | integer => .integer
  | decimal => .numeric
  | boolean => .boolean
  | date => .date
  | timestamp => .timestamp
  | singleChoice => .varchar
  | fileReference => .varchar

/-- The column types a field may name, in alphabetical order. -/
def allowedStorage : FieldKind → List StorageType
  | shortText | longText | singleChoice | fileReference => [.text, .varchar]
  | integer => [.bigint, .integer, .smallint]
  | decimal => [.decimal, .doublePrecision, .numeric, .real]
  | boolean => [.boolean]
  | date => [.date]
  | timestamp => [.timestamp]

/-- The length of a VARCHAR column that names none. -/
def defaultLength : FieldKind → Nat
  | singleChoice => 100
  | fileReference => 1024
  | _ => 255

end FieldKind

end EntityStore
