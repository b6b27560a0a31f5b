import EntityStore.Command.World

/-!
# Running commands

What each request does and tells. A command that fails tells why and ends with status 1; arguments
that make no command end it with status 2.
-/

namespace EntityStore

namespace Command

def programName : String := "formscaffold"
def programVersion : String := "0.1.0"

def usage : String :=
  "Usage: formscaffold [--database URL] [--echo] [--json] [--verbose] COMMAND\n\n"
    ++ "  version\n"
    ++ "  schema check DESCRIPTOR_FILE\n"
    ++ "  schema ddl DESCRIPTOR_FILE [--dialect NAME]\n"
    ++ "  schema sync DESCRIPTOR_FILE\n"
    ++ "  schema inspect TABLE_NAME\n"
    ++ "  data create DESCRIPTOR_FILE [DATA_JSON] [--from-file FILE]\n"
    ++ "  data list DESCRIPTOR_FILE [--where NAME=VALUE]... [--limit N] [--offset N]\n"
    ++ "            [--order-by NAME] [--direction asc|desc]\n"
    ++ "  data get DESCRIPTOR_FILE RECORD_ID\n"
    ++ "  data update DESCRIPTOR_FILE RECORD_ID DATA_JSON\n"
    ++ "  data delete DESCRIPTOR_FILE RECORD_ID\n"
    ++ "  admin test\n"

open Work

/-! ## Descriptors and tables -/

def check (file : String) : Work Unit := do
  let e ← reporting (entity file)
  let d := e.descriptor
  let message := "Descriptor '" ++ d.name ++ "' is valid"
  match ← form with
  | .json =>
    say (Report.success .json message
      [("entity", .text d.name), ("fields", .list (d.fieldNames.map .text))])
  | .text =>
    say (Report.success .text message [])
    say (← ofExcept (Report.descriptor .text d))

/-- Statements in a dialect; where none is named, in that of the database. -/
def ddl (file : String) (dialect : Option String) : Work Unit := reporting do
  let e ← entity file
  let name ← match dialect.filter (! ·.isEmpty) with
    | some name => pure name
    | none => do pure (← store).link.dialect.word
  let text ← ofExcept ((TableSchema.ofDescriptor e.descriptor).renderFor name)
  say (Report.statements (← form) text)

def sync (file : String) : Work Unit := reporting do
  let e ← entity file
  let t ← act (Store.ensure e)
  say (Report.success (← form) ("Table '" ++ t.name ++ "' synchronized")
    [("table", .text t.name), ("indexes", .list (t.indexes.map fun i => .text i.name)),
      ("trigger", .text t.trigger)])

def missing {α : Type} (what name : String) : Work α :=
  reporting (throw (.plain .notFound (what ++ " not found: " ++ name)))

def inspect (table : String) : Work Unit := do
  match ← reporting (act (Store.inspect table)) with
  | none => missing "Table" table
  | some info => say (Report.tableInfo (← form) info)

/-! ## Records -/

/-- Shows a record to people; in JSON its id has to do. -/
def showRecord (r : Record) : Work Unit := do
  match ← form with
  | .json => return
  | .text => say (Report.value .text (.mapping r))

/-- The record to create, from a file or from the command line. -/
def payload (data source : Option String) : Work (List (String × Value)) :=
  match source.filter (! ·.isEmpty), data.filter (! ·.isEmpty) with
  | some path, _ => objectIn "Record" path
  | none, some text => ofExcept (Argument.payload text)
  | none, none =>
    throw (.plain .badValue "Either provide data as JSON string or use --from-file")

def create (file : String) (data source : Option String) : Work Unit := reporting do
  let e ← entity file
  let given ← payload data source
  let r ← act (Store.create e (.mapping given))
  say (Report.success (← form) "Record created" [("id", (r.lookup "id").getD .null)])
  showRecord r

def pageValue (p : Page) : Value :=
  .mapping [("records", .list (p.records.map .mapping)), ("total_count", .int p.totalCount),
    ("limit", .int p.limit), ("offset", .int p.offset), ("has_more", .bool p.hasMore)]

/-- Which records of how many a page shows. -/
def pageTitle (entity : String) (p : Page) : String :=
  let shown :=
    if p.records.isEmpty then "0"
    else toString (p.offset + 1) ++ "-" ++ toString (p.offset + p.records.length)
  entity ++ " (" ++ shown ++ " of " ++ toString p.totalCount ++ ")"

def list (file : String) (l : Listing) : Work Unit := reporting do
  let e ← entity file
  let filters ← ofExcept (Argument.filters e.descriptor l.filters)
  let p ← act (Store.get e {
    filters := .mapping filters
    limit := .int l.limit
    offset := .int l.offset
    orderBy := .text l.orderBy
    direction := .text l.direction.word })
  match ← form with
  | .json => say (Report.value .json (pageValue p))
  | .text =>
    say (Report.table .text (pageTitle e.descriptor.name p) p.records e.descriptor.columnNames)

def get (file id : String) : Work Unit := do
  match ← reporting do act (Store.getById (← entity file) (.text id)) with
  | none => missing "Record" id
  | some r => say (Report.value (← form) (.mapping r))

def update (file id data : String) : Work Unit := do
  let changed ← reporting do
    let e ← entity file
    let given ← ofExcept (Argument.payload data)
    act (Store.update e (.text id) (.mapping given))
  match changed with
  | none => missing "Record" id
  | some r =>
    say (Report.success (← form) "Record updated" [("id", .text id)])
    showRecord r

def delete (file id : String) : Work Unit := do
  let wasThere ← reporting do act (Store.delete (← entity file) (.text id))
  let what := if wasThere then "Record deleted: " else "No record to delete: "
  say (Report.success (← form) (what ++ id) [("id", .text id), ("deleted", .bool wasThere)])

/-! ## The database -/

def test : Work Unit := reporting do
  act Store.test
  let info ← act (Store.serverInfo (← MonadState.get).world.databaseVersion)
  say (Report.success (← form) "Database connection OK"
    [("dialect", .text info.dialect.word), ("version", .text info.version),
      ("database", .text info.database), ("user", (info.user.map Value.text).getD .null),
      ("url", .text info.url), (programName, .text programVersion)])

/-! ## Commands -/

def perform : Request → Work Unit
  | .version => printText (programName ++ " v" ++ programVersion ++ "\n")
  | .help => printText usage
  | .check file => check file
  | .ddl file dialect => ddl file dialect
  | .sync file => sync file
  | .inspect table => inspect table
  | .create file data source => create file data source
  | .list file listing => list file listing
  | .get file id => get file id
  | .update file id data => update file id data
  | .delete file id => delete file id
  | .test => test

/-- How a command ended: its status, what it printed, and what was wrong with its arguments. -/
structure Outcome where
  status : Nat
  output : String
  complaint : Option UsageFlaw := none

/-- Runs a command line, and tells the world it leaves behind. -/
def run (world : World) (arguments : List String) : Outcome × World :=
  match Invocation.ofArguments world.environment arguments with
  | .error flaw => (⟨2, "", some flaw⟩, world)
  | .ok invocation =>
    let (r, desk) := (perform invocation.request).run.run ⟨world, invocation, none, ""⟩
    let status := match r with
      | .ok _ => 0
      | .error _ => 1
    (⟨status, desk.printed, none⟩, desk.leave)

/-- Runs command lines one after another in one world. -/
def runAll (world : World) : List (List String) → List Outcome
  | [] => []
  | arguments :: rest =>
    let (outcome, after) := run world arguments
    outcome :: runAll after rest

end Command

end EntityStore
