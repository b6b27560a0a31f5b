import EntityStore.Database.Binding
import EntityStore.Store.Basic
import EntityStore.Validation.Payload

/-!
# Writing records

A record holds the implicit columns and every declared field of its entity. Payloads are validated
before the clock is read and before anything is written; an id is given out only for a payload that
is valid.
-/

namespace EntityStore

/-- The values of a record by column, columns in the order of the table. -/
abbrev Record := List (String × Value)

namespace TableSchema

/-- The names of the columns as statements know them. -/
def denotedColumns (t : TableSchema) : List String := t.columns.map fun c => Database.denoted c.name

def denotedName (t : TableSchema) : String := Database.denoted t.name

/-- The columns that values are given for, with the cells of the values. -/
def cells (t : TableSchema) (given : Record) : Except Database.BindFault Database.Cells :=
  t.columns.filterMapM fun c =>
    match given.lookup c.name with
    | none => .ok none
    | some v => (Database.bind c.type v).map fun cell => some (Database.denoted c.name, cell)

/-- The record that the cells of the columns stand for. -/
def record (t : TableSchema) (cells : List Database.Cell) : Except Failure Record :=
  (t.columns.zip cells).mapM fun (c, cell) =>
    match Database.readCell c.type cell with
    | .ok v => .ok (c.name, v)
    | .error fault => .error fault.failure

/-- The text of the statement that inserts values for some columns. -/
def insertText (t : TableSchema) (given : Record) : String :=
  let name (c : Column) : String := Dialect.sqlite.nameText c.name
  let listed (columns : List Column) : String := String.intercalate ", " (columns.map name)
  let columns := t.columns.filter fun c => given.any (·.1 = c.name)
  "INSERT INTO " ++ Dialect.sqlite.nameText t.name ++ " (" ++ listed columns ++ ") VALUES ("
    ++ String.intercalate ", " (columns.map fun _ => "?") ++ ") RETURNING " ++ listed t.columns

end TableSchema

/-- The failure of an operation whose values cannot be laid down; an integer that does not fit is
refused by itself. -/
def Database.BindFault.failure (entity operation statement : String) : BindFault → Failure
  | .hugeInteger => .plain .overflow BindFault.hugeInteger.message
  | fault =>
    (Fault.client (fault.message ++ "\n[SQL: " ++ statement ++ "]")).failure entity operation

/-- The text of an id; only texts and unique ids can be ids. -/
def Value.idText? : Value → Option String
  | .text s => some s
  | .uuid s => some s
  | _ => none

namespace Store

def validValues (e : Registered) (mode : PayloadMode) (data : Value) : Action FieldValues :=
  Action.ofExcept <| do
    let v ← (Validator.ofDescriptor e.descriptor).mapError Escape.failure
    v.require mode data

/-- A reading of the database as part of an operation on an entity. -/
def asOperation {α : Type} (entity operation : String) (r : Except Database.Fault α) :
    Except Failure α :=
  r.mapError (Database.Fault.failure entity operation)

/-- Inserts a row for the given values, and reads back what was laid down. -/
def insertRecord (t : TableSchema) (given : Record) (stamp : String) (db : Database) :
    Except Failure (Database × Record) := do
  let cells ← (t.cells given).mapError (·.failure t.name "create" (t.insertText given))
  let (after, row) ← asOperation t.name "create"
    (db.insert t.denotedName cells t.denotedColumns stamp)
  return (after, ← t.record row)

/-- Changes the row with an id, and reads back what it then holds. -/
def changeRecord (t : TableSchema) (id : String) (given : Record) (stamp : String)
    (db : Database) : Except Failure (Database × Option Record) := do
  let cells ← (t.cells given).mapError (·.failure t.name "update" "")
  let (after, row) ← asOperation t.name "update"
    (db.update t.denotedName id cells t.denotedColumns stamp)
  return (after, ← row.mapM t.record)

/-- The values of a new record: those that every record has, then those of its fields. -/
def newRecord (id : String) (now : Timestamp) (values : FieldValues) : Record :=
  [("id", .text id), ("created_at", .timestamp now), ("updated_at", .timestamp now)] ++ values

/-- What an update gives: the time of the update, then the values of the fields it names. -/
def changedValues (now : Timestamp) (values : FieldValues) : Record :=
  [("updated_at", .timestamp now)] ++ values

/-- Stores a new record. -/
def create (e : Registered) (data : Value) : Action Record := do
  let t ← ensure e
  let values ← validValues e .full data
  let now ← readClock
  let id ← issueId
  let stamp := (← get).clock.stamp
  transaction t.name "create" (insertRecord t (newRecord id now values) stamp)

/-- Changes the given fields of a record; answers nothing where there is no record with the id. -/
def update (e : Registered) (id data : Value) : Action (Option Record) := do
  let t ← ensure e
  let values ← validValues e .patch data
  match id.idText? with
  | none => return none
  | some id =>
    let now ← readClock
    let stamp := (← get).clock.stamp
    transaction t.name "update" (changeRecord t id (changedValues now values) stamp)

/-- Removes a record, and tells whether there was one. -/
def delete (e : Registered) (id : Value) : Action Bool := do
  let t ← ensure e
  match id.idText? with
  | none => return false
  | some id =>
    transaction t.name "delete" fun db => asOperation t.name "delete" (db.delete t.denotedName id)

/-- A change made past the store: how many rows it met, and whether the time of the last update
became another one. That time is put back. -/
def touch (table id column : String) (v : Value) : Action (Nat × Bool) := do
  let stamp := (← get).clock.stamp
  transaction table "touch" fun db => do
    let cell ← (Database.plainCell v).mapError (·.failure table "touch" "")
    let kept (db : Database) : Option Database.Cell :=
      (db.table? table).bind fun t => (t.rowOf? (.text id)).map fun row =>
        t.cell row Database.Table.updatedColumn
    let (after, row) ← asOperation table "touch" (db.update table id [(column, cell)] [] stamp)
    match row, kept db with
    | some _, some time =>
      let (restored, _) ← asOperation table "touch"
        (after.update table id [(Database.Table.updatedColumn, time)] [] stamp)
      return (restored, 1, kept after ≠ some time)
    | _, _ => return (db, 0, false)

end Store

end EntityStore
