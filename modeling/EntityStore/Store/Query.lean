import EntityStore.Entity.Check
import EntityStore.Store.Records

/-!
# Reading records

Records are read by filters, a page at a time, in the order of one column and then of their ids. A
filter holds where a column equals a value, or holds nothing where the value is null. A value that
no record of the entity can hold answers an empty page at once.
-/

namespace EntityStore

/-- What a reading asks for, as it was asked: any part may turn out to be of the wrong kind. -/
structure PageRequest where
  filters : Value := .null
  limit : Value := .null
  offset : Value := .int 0
  orderBy : Value := .text "created_at"
  direction : Value := .text SortDirection.descending.word

structure Page where
  records : List Record
  totalCount : Nat
  limit : Int
  offset : Int
  hasMore : Bool

/-- A table as the store tells about it, and when it looked, if that is known. -/
structure TableInfo where
  report : Database.TableReport
  inspectedAt : Option Timestamp

namespace Store

/-! ## What was asked -/

def isWhole : Value → Option Int
  | .int n => some n
  | _ => none

def queryFailure (message : String) (context : List (String × Value)) : Failure :=
  .noted .query message context

/-- The size of the page and the records to pass over. -/
def checkPage (paging : Paging) (limit offset : Value) : Except Failure (Int × Int) := do
  let limit := if limit.isNull then .int paging.standard else limit
  match isWhole limit with
  | none =>
    throw (queryFailure ("limit must be an integer, got " ++ limit.literal) [("limit", limit)])
  | some n =>
    if n < 1 ∨ paging.largest < n then
      throw (queryFailure
        ("limit must be between 1 and " ++ toString paging.largest ++ ", got " ++ toString n)
        [("limit", .int n), ("max_page_size", .int paging.largest)])
    else
      match (isWhole offset).filter (0 ≤ ·) with
      | some start => return (n, start)
      | none =>
        throw (queryFailure
          ("offset must be a non-negative integer, got " ++ offset.literal) [])

/-- A direction by its word, in letters of either case; no letter beyond ASCII has a small form in
one of the words. -/
def direction (v : Value) : Except Failure SortDirection :=
  match SortDirection.ofWord? v.plain.toLower with
  | some d => .ok d
  | none =>
    .error (queryFailure ("direction must be one of "
      ++ String.intercalate ", " (SortDirection.all.map (·.word)) ++ ", got " ++ v.literal) [])

/-- The column of a name. -/
def column (t : TableSchema) (name : Value) : Except Failure Column :=
  let found := match name with
    | .text s => t.column? s
    | _ => none
  match found with
  | some c => .ok c
  | none => .error (.fieldNotFound name.plain t.name t.columnNames)

/-! ## Filters -/

/-- What a filter value comes to: a value to equal, or none that a record can hold. -/
inductive Sought where
  | value (v : Value)
  | impossible

def soughtTime (v : Value) : Except Failure Sought :=
  let time? : Option Timestamp := match v with
    | .text s => Iso.timestamp? s
    | .timestamp t => some t
    | _ => none
  match time? with
  | none => .ok .impossible
  | some t =>
    match t.toUtc? with
    | some utc => .ok (.value (.timestamp utc))
    | none => .error Clock.beyondCalendar

/-- A filter value as its column would store it. -/
def sought (d : Descriptor) (name : String) (v : Value) : Except Failure Sought :=
  if name = "id" then
    match v.idText? with
    | some id => .ok (.value (.text id))
    | none => .ok .impossible
  else if name = "created_at" ∨ name = "updated_at" then soughtTime v
  else do
    let validator ← (Validator.ofDescriptor d).mapError Escape.failure
    match ← (validator.check .patch (.mapping [(name, v)])).mapError Escape.failure with
    | .error _ => return .impossible
    | .ok values =>
      match values.lookup name with
      | some stored => return .value stored
      | none => return .impossible

/-- The condition of one filter; `none` where no record can meet it. -/
def condition (d : Descriptor) (t : TableSchema) (filter : String × Value) :
    Except Failure (Option Database.Condition) := do
  let c ← column t (.text filter.1)
  let name := Database.denoted c.name
  if filter.2.isNull then return some ⟨name, none⟩
  match ← sought d c.name filter.2 with
  | .impossible => return none
  | .value v =>
    match Database.bind c.type v with
    | .ok cell => return some ⟨name, some cell⟩
    | .error fault => throw (fault.failure t.name "get" "")

/-- The conditions of filters in their order, up to the first that no record can meet. -/
def conditionsOf (d : Descriptor) (t : TableSchema) :
    List (String × Value) → Except Failure (Option (List Database.Condition))
  | [] => .ok (some [])
  | filter :: rest => do
    match ← condition d t filter with
    | none => return none
    | some c => return (← conditionsOf d t rest).map (c :: ·)

def isEmptyValue : Value → Bool
  | .null => true
  | .bool b => !b
  | .int n => n = 0
  | .float x => x.sameValue .zero
  | .decimal (.finite _ coeff _) => coeff = 0
  | .text s => s.isEmpty
  | .bytes bs => bs.isEmpty
  | .list items => items.isEmpty
  | .mapping entries => entries.isEmpty
  | _ => false

def filterEntries (filters : Value) : Except Failure (List (String × Value)) :=
  match filters with
  | .mapping entries => .ok entries
  | v =>
    if isEmptyValue v then .ok []
    else
      .error (.plain .noSuchOperation
        ("'" ++ Predicate.typeName v ++ "' object has no attribute 'items'"))

def conditions (d : Descriptor) (t : TableSchema) (filters : Value) :
    Except Failure (Option (List Database.Condition)) := do
  conditionsOf d t (← filterEntries filters)

/-! ## Reading -/

/-- The rows of a page, and how many rows there are in all. -/
def readPage (t : TableSchema) (found : List Database.Condition) (order : Database.SortOrder)
    (limit offset : Int) (db : Database) : Except Failure (Nat × List Record) := do
  let total ← asOperation t.name "get" (db.count t.denotedName found)
  if ¬ Database.Cell.fitsInt limit ∨ ¬ Database.Cell.fitsInt offset then
    throw (.plain .overflow Database.BindFault.hugeInteger.message)
  let rows ← asOperation t.name "get"
    (db.page t.denotedName t.denotedColumns found order limit.toNat offset.toNat)
  return (total, ← rows.mapM t.record)

def get (e : Registered) (request : PageRequest) : Action Page := do
  let t ← ensure e
  let paging := (← MonadState.get).paging
  let (limit, offset) ← Action.ofExcept (checkPage paging request.limit request.offset)
  let sortColumn ← Action.ofExcept (column t request.orderBy)
  let direction ← Action.ofExcept (direction request.direction)
  match ← Action.ofExcept (conditions e.descriptor t request.filters) with
  | none => return ⟨[], 0, limit, offset, false⟩
  | some found =>
    let order : Database.SortOrder := ⟨Database.denoted sortColumn.name, direction⟩
    transaction t.name "get" fun db => do
      let (total, records) ← readPage t found order limit offset db
      return (db, ⟨records, total, limit, offset, offset + records.length < total⟩)

def getById (e : Registered) (id : Value) : Action (Option Record) := do
  let page ← get e { filters := .mapping [("id", id)], limit := .int 1 }
  return page.records.head?

def count (e : Registered) (filters : Value) : Action Nat := do
  let t ← ensure e
  match ← Action.ofExcept (conditions e.descriptor t filters) with
  | none => return 0
  | some found =>
    transaction t.name "count" fun db => do
      return (db, ← asOperation t.name "count" (db.count t.denotedName found))

/-- The statement that asks whether a table is there. -/
def tableQuestion (name : String) : String := "PRAGMA main.table_info(\"" ++ name ++ "\")"

/-- What the database tells about a table; nothing if there is no such table. -/
def inspect (name : String) : Action (Option TableInfo) := do
  if ¬ isIdentifier name then
    throw (queryFailure ("Invalid table name '" ++ name ++ "'") [("table_name", .text name)])
  let place ← engine
  let s ← MonadState.get
  match s.databaseAt place with
  | .error fault => throw (.schemaSync name (s.firstReport place (tableQuestion name) fault))
  | .ok db => return (db.report? name).map fun report => ⟨report, some s.clock.now⟩

end Store

end EntityStore
