import EntityStore.Database.Fault
import EntityStore.Database.Table

/-!
# Databases

A database holds tables, indexes and triggers. Statements that make a table are applied one by one;
each has its effect or none. A statement whose thing exists already has no effect and is no fault.
-/

namespace EntityStore

/-- An index over a column, or over no column of its table. -/
structure Database.Index where
  name : String
  table : String
  column : Option String
  deriving DecidableEq, Repr

/-- A trigger that renews the time of an update which left it as it was. -/
structure Database.Trigger where
  name : String
  table : String
  deriving DecidableEq, Repr

structure Database where
  tables : List Database.Table := []
  indexes : List Database.Index := []
  triggers : List Database.Trigger := []
  deriving DecidableEq, Repr, Inhabited

namespace Database

def table? (db : Database) (name : String) : Option Table :=
  db.tables.find? fun t => sameName t.name name

def index? (db : Database) (name : String) : Option Index :=
  db.indexes.find? fun i => sameName i.name name

def putTable (db : Database) (table : Table) : Database :=
  { db with tables := db.tables.map fun t => if sameName t.name table.name then table else t }

def isTouched (db : Database) (table : Table) : Bool :=
  db.triggers.any fun t => sameName t.table table.name

/-! ## Faults of statements -/

/-- Words that cannot be names where they stand without quotes. -/
def syntaxWords : List String :=
  ["add", "all", "alter", "and", "as", "autoincrement", "between", "case", "check", "collate",
    "commit", "constraint", "create", "default", "deferrable", "delete", "distinct", "drop",
    "else", "escape", "except", "exists", "foreign", "from", "group", "having", "in", "index",
    "insert", "intersect", "into", "is", "isnull", "join", "limit", "not", "nothing", "notnull",
    "null", "on", "or", "order", "primary", "references", "returning", "select", "set", "table",
    "then", "to", "transaction", "union", "unique", "update", "using", "values", "when", "where"]

/-- The name that a statement's text stands for. -/
def denoted (name : String) : String := Dialect.sqlite.denoted name

def syntaxFault? (name : String) : Option Fault :=
  if ¬ Dialect.sqlite.needsQuotes name ∧ syntaxWords.contains (denoted name) then
    some (.operational ("near \"" ++ denoted name ++ "\": syntax error"))
  else none

/-- Names that begin so belong to the database itself. -/
def systemMark : String := "sqlite_"

def isSystemName (name : String) : Bool := systemMark.isPrefixOf name.toLower

/-- Why a new table cannot have a name. -/
def tableNameFault? (db : Database) (name : String) : Option Fault :=
  if isSystemName name then
    some (.operational ("object name reserved for internal use: " ++ name))
  else if (db.table? name).isSome then none
  else if (db.index? name).isSome then
    some (.operational ("there is already an index named " ++ name))
  else none

def isConstantDefault : ColumnDefault → Bool
  | .literal (.float (.infinity true)) => false
  | _ => true

/-- The most columns that a table can have. -/
def maxColumns : Nat := 2000

/-- The first fault of the columns of a table after some earlier ones. The columns of a table that
exists are only read, not made. -/
def columnFault? (table : String) (isNew : Bool) (earlier : List String) :
    List Column → Option Fault
  | [] => none
  | c :: rest =>
    match syntaxFault? c.name with
    | some fault => some fault
    | none =>
      let name := denoted c.name
      if isNew && decide (maxColumns ≤ earlier.length) then
        some (.operational ("too many columns on " ++ table))
      else if isNew && earlier.any (sameName name) then
        some (.operational ("duplicate column name: " ++ name))
      else if isNew && c.default.any (! isConstantDefault ·) then
        some (.operational ("default value of column [" ++ name ++ "] is not constant"))
      else columnFault? table isNew (earlier ++ [name]) rest

/-- A text with a null character in it; names have none. -/
def hasNullCharacter : ColumnDefault → Bool
  | .literal (.text s) => s.toList.contains '\x00'
  | _ => false

/-- A statement with a null character in it does not reach the database. -/
def textFault? (columns : List Column) : Option Fault :=
  if columns.any (·.default.any hasNullCharacter) then
    some (.driver .programming "the query contains a null character" none false)
  else none

def createTableFault? (db : Database) (t : TableSchema) : Option Fault :=
  let name := denoted t.name
  textFault? t.columns
    <|> syntaxFault? t.name
    <|> db.tableNameFault? name
    <|> columnFault? name (db.table? name).isNone [] t.columns

def noSuchColumn (name : String) : Fault := .operational ("no such column: " ++ name)
def noSuchTable (name : String) : Fault := .operational ("no such table: " ++ name)

/-! ## Applying statements -/

def createTable (t : TableSchema) (db : Database) : Except Fault Database :=
  match db.createTableFault? t with
  | some fault => .error fault
  | none =>
    let made := t.rename denoted
    if (db.table? made.name).isSome then .ok db
    else .ok { db with tables := db.tables ++ [⟨made, []⟩] }

/-- A name in quotes that names no column is a text, and a text may be indexed. -/
def createIndex (table name column : String) (db : Database) : Except Fault Database :=
  match db.table? table with
  | none => .error (noSuchTable ("main." ++ table))
  | some t =>
    if (db.table? name).isSome then
      .error (.operational ("there is already a table named " ++ name))
    else if (db.index? name).isSome then .ok db
    else
      match t.columns.find? fun c => sameName c.name column with
      | some c => .ok { db with indexes := db.indexes ++ [⟨name, t.name, some c.name⟩] }
      | none =>
        if Dialect.sqlite.needsQuotes column then
          .ok { db with indexes := db.indexes ++ [⟨name, t.name, none⟩] }
        else .error (noSuchColumn column)

def dropTrigger (name : String) (db : Database) : Database :=
  { db with triggers := db.triggers.filter fun t => !sameName t.name name }

def createTrigger (table name : String) (db : Database) : Except Fault Database :=
  match db.table? table with
  | none => .error (noSuchTable ("main." ++ table))
  | some t =>
    if db.triggers.any fun other => sameName other.name name then
      .error (.operational ("trigger " ++ name ++ " already exists"))
    else .ok { db with triggers := db.triggers ++ [⟨name, t.name⟩] }

def apply (statement : Statement) (db : Database) : Except Fault Database :=
  match statement with
  | .createTable t => db.createTable t
  | .createIndex table index =>
    db.createIndex (denoted table) (denoted index.name) (denoted index.column)
  | .touchFunction => .ok db
  | .dropTrigger _ name => .ok (db.dropTrigger (denoted name))
  | .createTrigger table name => db.createTrigger (denoted table) (denoted name)

/-- Applies statements up to the first that cannot be applied, which is told with its fault. What
the earlier ones did stays. -/
def applyAll (db : Database) : List Statement → Database × Option (Statement × Fault)
  | [] => (db, none)
  | statement :: rest =>
    match db.apply statement with
    | .ok after => after.applyAll rest
    | .error fault => (db, some (statement, fault))

/-! ## What there is -/

structure ColumnReport where
  name : String
  type : String
  nullable : Bool
  default : Option String
  deriving DecidableEq, Repr

/-- A table as the database tells about it. -/
structure TableReport where
  name : String
  columns : List ColumnReport
  indexes : List String
  rowCount : Nat
  deriving DecidableEq, Repr

def defaultText : ColumnDefault → String
  | .now => ColumnDefault.now.sql .sqlite
  | .literal d => Dialect.sqlite.defaultLiteral d

def Table.report (db : Database) (asked : String) (t : Table) : TableReport where
  name := asked
  columns := t.columns.map fun c =>
    ⟨c.name, c.type.sql .sqlite, c.nullable, c.default.map defaultText⟩
  indexes := ((db.indexes.filter fun i => sameName i.table t.name && i.column.isSome).map (·.name)
    ).mergeSort fun a b => decide (a ≤ b)
  rowCount := t.rows.length

/-- The tables in which the database keeps its own description, and how many rows each one has:
one for every table, key, index and trigger. -/
def systemTables (db : Database) : List (String × Nat) :=
  let keys := (db.tables.map fun t => t.keyColumns.length).foldl (· + ·) 0
  let count := db.tables.length + keys + db.indexes.length + db.triggers.length
  [("sqlite_master", count), ("sqlite_schema", count), ("sqlite_temp_master", 0),
    ("sqlite_temp_schema", 0)]

def systemColumns : List ColumnReport :=
  [("type", "TEXT"), ("name", "TEXT"), ("tbl_name", "TEXT"), ("rootpage", "INTEGER"),
    ("sql", "TEXT")].map fun (name, type) => ⟨name, type, true, none⟩

def report? (db : Database) (name : String) : Option TableReport :=
  match db.systemTables.find? fun (n, _) => sameName n name with
  | some (_, count) => some ⟨name, systemColumns, [], count⟩
  | none => (db.table? name).map (Table.report db name)

def has (db : Database) (name : String) : Bool := (db.report? name).isSome

end Database

end EntityStore
