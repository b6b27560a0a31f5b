import EntityStore.Database.Catalog

/-!
# Rows

The statements that write and read rows. A statement names its table and columns as its text does;
all names are looked up before any row is touched, so a fault of a name leaves the rows alone. Keys
are checked before a row is written.
-/

namespace EntityStore

namespace Database

/-- A column equals a cell, or holds nothing. -/
structure Condition where
  column : String
  /-- The cell to equal; absent, the column must hold nothing. -/
  value : Option Cell
  deriving DecidableEq, Repr

/-- The cells given to the columns of a row. -/
abbrev Cells := List (String × Cell)

def Fault.integrity (message : String) : Fault := .driver .integrity message none false

def findTable (db : Database) (name : String) : Except Fault Table :=
  match db.table? name with
  | some t => .ok t
  | none => .error (noSuchTable name)

namespace Table

/-- A row that breaks a constraint among other rows, with the fault that tells so. -/
def constraintFault? (t : Table) (others : List Row) (row : Row) : Option Fault :=
  match t.missing? row with
  | some c => some (.integrity ("NOT NULL constraint failed: " ++ t.name ++ "." ++ c.name))
  | none =>
    (t.repeated? others row).map fun column =>
      .integrity (uniqueMarker ++ ": " ++ t.name ++ "." ++ column)

/-- Columns that are written and reported back. A reported name in quotes that names no column is a
text. -/
def reportFault? (t : Table) (reported : List String) : Option Fault :=
  (reported.find? fun name => !t.hasColumn name && !Dialect.sqlite.needsQuotes name).map noSuchColumn

def echo (t : Table) (row : Row) (columns : List String) : List Cell :=
  columns.map fun name =>
    if t.hasColumn name then reported (t.cell row name) else .text name

/-- Whether a row meets a condition, whose cell is converted to what the column holds. -/
def meets (t : Table) (row : Row) (condition : Condition) : Bool :=
  let cell := t.cell row condition.column
  match condition.value with
  | none => cell.isNull
  | some value =>
    let affinity := match t.position? condition.column with
      | some i => t.affinity i
      | none => .numeric
    cell.equals (affinity.applyToOperand value)

/-- The first column that a reading names and the table lacks. -/
def readFault? (t : Table) (asked : String) (columns : List String) : Option Fault :=
  (columns.find? fun name => !t.hasColumn name).map fun name => noSuchColumn (asked ++ "." ++ name)

def matching (t : Table) (conditions : List Condition) : List Row :=
  t.rows.filter fun row => conditions.all (t.meets row)

end Table

/-! ## Writing -/

def insert (db : Database) (table : String) (given : Cells) (reported : List String)
    (now : String) : Except Fault (Database × List Cell) := do
  let t ← db.findTable table
  match given.find? fun (name, _) => !t.hasColumn name with
  | some (name, _) =>
    throw (.operational ("table " ++ table ++ " has no column named " ++ name))
  | none =>
    match t.reportFault? reported with
    | some fault => throw fault
    | none =>
      let row := t.fill now given
      match t.constraintFault? t.rows row with
      | some fault => throw fault
      | none => return (db.putTable { t with rows := t.rows ++ [row] }, t.echo row reported)

/-- The row after its trigger: a change that left the time of the last update as it was renews it. -/
def afterTrigger (db : Database) (t : Table) (now : String) (old new : Row) : Row :=
  if db.isTouched t ∧ t.cell new Table.updatedColumn = t.cell old Table.updatedColumn then
    t.change new [(Table.updatedColumn, .text now)]
  else new

/-- Changes the row with an id, and reports it as it is before any trigger. -/
def update (db : Database) (table : String) (id : String) (given : Cells)
    (reported : List String) (now : String) : Except Fault (Database × Option (List Cell)) := do
  let t ← db.findTable table
  match given.find? fun (name, _) => !t.hasColumn name with
  | some (name, _) => throw (noSuchColumn name)
  | none =>
    match t.reportFault? reported, t.rowOf? (.text id) with
    | some fault, _ => throw fault
    | none, none => return (db, none)
    | none, some old =>
      let new := t.change old given
      let others := t.rows.filter fun row => !(t.cell row Table.idColumn).equals (.text id)
      match t.constraintFault? others new with
      | some fault => throw fault
      | none =>
        let kept := db.afterTrigger t now old new
        let rows := t.rows.map fun row =>
          if (t.cell row Table.idColumn).equals (.text id) then kept else row
        return (db.putTable { t with rows := rows }, some (t.echo new reported))

/-- Removes the row with an id, and tells whether there was one. -/
def delete (db : Database) (table : String) (id : String) : Except Fault (Database × Bool) := do
  let t ← db.findTable table
  let rows := t.rows.filter fun row => !(t.cell row Table.idColumn).equals (.text id)
  return (db.putTable { t with rows := rows }, rows.length < t.rows.length)

/-! ## Reading -/

def count (db : Database) (table : String) (conditions : List Condition) : Except Fault Nat := do
  let t ← db.findTable table
  match t.readFault? table (conditions.map (·.column)) with
  | some fault => throw fault
  | none => return (t.matching conditions).length

/-- A column to sort by; rows that are equal in it are sorted by their ids. -/
structure SortOrder where
  column : String
  direction : SortDirection
  deriving DecidableEq, Repr

def SortOrder.compare (order : SortOrder) (t : Table) (a b : Row) : Ordering :=
  order.direction.orient
    (((t.cell a order.column).compare (t.cell b order.column)).then
      ((t.cell a Table.idColumn).compare (t.cell b Table.idColumn)))

/-- The cells of some columns of the rows that meet the conditions, in order, of which `offset` are
passed over and at most `limit` are read. -/
def page (db : Database) (table : String) (columns : List String) (conditions : List Condition)
    (order : SortOrder) (limit offset : Nat) : Except Fault (List (List Cell)) := do
  let t ← db.findTable table
  match t.readFault? table (columns ++ conditions.map (·.column) ++ [order.column]) with
  | some fault => throw fault
  | none =>
    let sorted := (t.matching conditions).mergeSort fun a b => order.compare t a b ≠ .gt
    return ((sorted.drop offset).take limit).map fun row => columns.map (t.cell row)

end Database

end EntityStore
