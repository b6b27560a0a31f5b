import EntityStore.Database.Cell
import EntityStore.Schema.Statement

/-!
# Tables with rows

A table as it was created, and its rows. A row has a cell for every column, in their order. Names of
tables and columns are found whatever the case of their letters.
-/

namespace EntityStore

namespace Database

/-- Whether two names name one thing: only the case of ASCII letters may differ. -/
def sameName (a b : String) : Bool := a.toLower = b.toLower

abbrev Row := List Cell

structure Table where
  schema : TableSchema
  rows : List Row := []
  deriving DecidableEq, Repr

namespace Table

def name (t : Table) : String := t.schema.name

def columns (t : Table) : List Column := t.schema.columns

def position? (t : Table) (column : String) : Option Nat :=
  t.columns.findIdx? fun c => sameName c.name column

def hasColumn (t : Table) (column : String) : Bool := (t.position? column).isSome

def affinity (t : Table) (position : Nat) : Affinity :=
  match t.columns[position]? with
  | some c => .ofType c.type
  | none => .numeric

/-- The cell of a column. -/
def cell (t : Table) (row : Row) (column : String) : Cell :=
  match t.position? column with
  | some i => row.getD i .null
  | none => .null

def idColumn : String := "id"
def updatedColumn : String := "updated_at"

/-- The row with an id. -/
def rowOf? (t : Table) (id : Cell) : Option Row :=
  t.rows.find? fun row => (t.cell row idColumn).equals id

/-! ## Defaults -/

/-- What a column holds where a row leaves it out, given the text of the present moment. A number
beyond all others is a bare word, and a word is a text. -/
def defaultCell (now : String) : ColumnDefault → Cell
  | .now => .text now
  | .literal (.bool b) => .int (if b then 1 else 0)
  | .literal (.int n) => if Cell.fitsInt n then .int n else .real (Binary64.ofInt n)
  | .literal (.float x) => if x.isFinite then .real x else .text x.toText
  | .literal (.text s) => .text s

def omitted (now : String) (c : Column) : Cell :=
  match c.default with
  | some d => (Affinity.ofType c.type).apply (defaultCell now d)
  | none => .null

/-! ## Constraints -/

/-- The first column that must hold something and does not. -/
def missing? (t : Table) (row : Row) : Option Column :=
  ((t.columns.zip row).find? fun (c, cell) => !c.nullable && cell.isNull).map (·.1)

/-- The columns whose values no two rows share, in the order in which they are checked: the key
declared last comes first, and the id comes last. -/
def keyColumns (t : Table) : List String :=
  (t.schema.uniqueKeys.map (·.column)).reverse ++ [idColumn]

def holds (t : Table) (rows : List Row) (column : String) (value : Cell) : Bool :=
  rows.any fun row => (t.cell row column).equals value

/-- The first key that a row shares with another one. -/
def repeated? (t : Table) (others : List Row) (row : Row) : Option String :=
  t.keyColumns.find? fun column => t.holds others column (t.cell row column)

/-! ## Reading and writing -/

/-- A row of a table from the cells given for its columns; the first of several counts. -/
def fill (t : Table) (now : String) (given : List (String × Cell)) : Row :=
  t.columns.map fun c =>
    match given.find? fun (name, _) => sameName name c.name with
    | some (_, cell) => (Affinity.ofType c.type).apply cell
    | none => omitted now c

/-- A row with some cells changed; the last of several counts. -/
def change (t : Table) (row : Row) (given : List (String × Cell)) : Row :=
  (t.columns.zip row).map fun (c, old) =>
    match given.reverse.find? fun (name, _) => sameName name c.name with
    | some (_, cell) => (Affinity.ofType c.type).apply cell
    | none => old

/-- Whole numbers that take at most six bytes. -/
def fitsSixBytes (n : Int) : Bool := -140737488355328 ≤ n && n ≤ 140737488355327

/-- How a written cell is reported at once: a small whole number as an integer, also where the
column keeps binary numbers. -/
def reported : Cell → Cell
  | .real x =>
    match Cell.wholeReal x with
    | .int n => if fitsSixBytes n then .int n else .real x
    | c => c
  | c => c

end Table

end Database

end EntityStore
