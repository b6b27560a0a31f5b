import EntityStore.Schema.Identifier

/-!
# Tables

The table that a descriptor asks for: the implicit columns, then a column for every field, with a
key for every unique field, an index for every indexed one, and the name of the trigger that keeps
`updated_at`.
-/

namespace EntityStore

inductive ColumnType where
  | varchar (length : Nat)
  | text
  | integer
  | bigint
  | smallint
  | numeric (precision scale : Option Nat)
  | real
  | double
  | date
  | timestamp
  | boolean
  deriving DecidableEq, Repr

inductive ColumnDefault where
  | now
  | literal (d : Default)
  deriving DecidableEq, Repr

structure Column where
  name : String
  type : ColumnType
  nullable : Bool
  default : Option ColumnDefault
  deriving DecidableEq, Repr

/-- A named index or key over one column. -/
structure ColumnKey where
  name : String
  column : String
  deriving DecidableEq, Repr

structure TableSchema where
  name : String
  columns : List Column
  uniqueKeys : List ColumnKey
  indexes : List ColumnKey
  trigger : String
  deriving DecidableEq, Repr

namespace Field

def columnType (f : Field) : ColumnType :=
  match f.storageType with
  | .varchar => .varchar (f.storage.length.getD f.kind.defaultLength)
  | .text => .text
  | .integer => .integer
  | .bigint => .bigint
  | .smallint => .smallint
  | .decimal | .numeric => .numeric f.storage.precision f.storage.scale
  | .real => .real
  | .doublePrecision => .double
  | .date => .date
  | .timestamp => .timestamp
  | .boolean => .boolean

def column (f : Field) : Column :=
  ⟨f.name, f.columnType, f.isNullable, f.storage.default.map .literal⟩

end Field

namespace TableSchema

def idLength : Nat := 36

def implicit : List Column :=
  [⟨"id", .varchar idLength, false, none⟩, ⟨"created_at", .timestamp, false, some .now⟩,
    ⟨"updated_at", .timestamp, false, some .now⟩]

def ofDescriptor (d : Descriptor) : TableSchema where
  name := d.name
  columns := implicit ++ d.fields.map Field.column
  uniqueKeys := (d.fields.filter (·.storage.unique)).map fun f =>
    ⟨constraintName d.name f.name, f.name⟩
  indexes := (d.fields.filter (·.storage.index)).map fun f => ⟨indexName d.name f.name, f.name⟩
  trigger := triggerName d.name

def column? (t : TableSchema) (name : String) : Option Column := t.columns.find? (·.name = name)

def columnNames (t : TableSchema) : List String := t.columns.map (·.name)

/-- The table with every name changed. -/
def rename (f : String → String) (t : TableSchema) : TableSchema where
  name := f t.name
  columns := t.columns.map fun c => { c with name := f c.name }
  uniqueKeys := t.uniqueKeys.map fun k => ⟨f k.name, f k.column⟩
  indexes := t.indexes.map fun k => ⟨f k.name, f k.column⟩
  trigger := f t.trigger

end TableSchema

end EntityStore
