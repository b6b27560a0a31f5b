import EntityStore.Connection.Settings
import EntityStore.Database.Fault
import EntityStore.Schema.Dialect

/-!
# Links to a database

Settings whose database is of a supported kind, and how its connections are made: the limits of the
pool, and what the driver is told.
-/

namespace EntityStore

/-- Settings with a supported database. -/
structure Link where
  settings : Settings
  dialect : Dialect
  deriving Repr

/-- How connections are made and kept. -/
inductive PoolOptions where
  | server (poolSize : Int) (poolTimeout recycle : Seconds) (connectSeconds : Int) (tls : TlsMode)
    (statementMillis : Int)
  | memory (timeout : Seconds)
  | file (poolSize : Int) (timeout : Seconds)
  deriving DecidableEq, Repr

namespace PoolOptions

def fileArguments (timeout : Seconds) : Value :=
  .mapping [("check_same_thread", .bool false), ("timeout", timeout.toValue)]

def entries : PoolOptions → List (String × Value)
  | server size timeout recycle seconds tls millis =>
    [("pool_size", .int size), ("max_overflow", .int 0), ("pool_timeout", timeout.toValue),
      ("pool_recycle", recycle.toValue), ("pool_pre_ping", .bool true),
      ("connect_args", .mapping [("connect_timeout", .int seconds), ("sslmode", .text tls.word),
        ("options", .text ("-c statement_timeout=" ++ toString millis))])]
  | memory timeout => [("connect_args", fileArguments timeout), ("poolclass", .text "StaticPool")]
  | file size timeout =>
    [("connect_args", fileArguments timeout), ("pool_size", .int size), ("max_overflow", .int 0),
      ("pool_timeout", timeout.toValue)]

end PoolOptions

namespace Link

def ofSettings (s : Settings) : Except Failure Link := do
  let backend ← s.backend
  match Dialect.ofWord? backend with
  | some dialect => return ⟨s, dialect⟩
  | none =>
    throw (.noted .connection
      ("Unsupported database dialect: " ++ backend ++ ". Supported: "
        ++ String.intercalate ", " (Dialect.all.map (·.word))) [])

/-- An endless span has no number of units. -/
def endless : Failure := .plain .overflow "cannot convert float infinity to integer"

def poolOptions (link : Link) : Except Failure PoolOptions :=
  let s := link.settings
  match link.dialect with
  | .sqlite => s.isMemory.map fun inMemory =>
      if inMemory then .memory s.connectTimeout else .file s.poolSize s.connectTimeout
  | .postgresql =>
    match s.statementTimeout.millis?, s.connectTimeout.ceil? with
    | some millis, some seconds =>
      .ok (.server s.poolSize s.connectTimeout s.idleTimeout seconds s.sslMode millis)
    | _, _ => .error endless

/-- The URL for people. -/
def url (link : Link) : Except Failure String := link.settings.displayUrl

/-! ## Opening -/

/-- Drivers that can be used, by the name of their database. -/
def knownDrivers : Dialect → List String
  | .sqlite => ["pysqlite"]
  | .postgresql => ["psycopg"]

def driverName (u : DatabaseUrl) : Option String :=
  match splitText '+' u.driver with
  | [_] => none
  | _ :: rest => some (String.intercalate "." rest)
  | [] => none

/-- Drivers that are known, and the library each one needs and does not find. -/
def absentDrivers : List (String × String) :=
  [("sqlite.aiosqlite", "aiosqlite"), ("postgresql.psycopg2", "psycopg2"),
    ("postgresql.asyncpg", "asyncpg"), ("postgresql.pg8000", "pg8000")]

/-- Why no driver can be used for a URL. -/
def driverProblem? (dialect : Dialect) (u : DatabaseUrl) : Option String :=
  match driverName u with
  | none => none
  | some driver =>
    let name := u.backend ++ "." ++ driver
    if (knownDrivers dialect).contains driver then none
    else if driver.contains '.' then some "too many values to unpack (expected 2)"
    else
      match absentDrivers.lookup name with
      | some library => some ("No module named " ++ quoted library)
      | none => some ("Can't load plugin: sqlalchemy.dialects:" ++ name)

/-- A file database has no host, port, user or password. -/
def formProblem? (dialect : Dialect) (u : DatabaseUrl) : Option String :=
  let isGiven (part : Option String) : Bool := part.any (! ·.isEmpty)
  if dialect = .sqlite
      ∧ (isGiven u.username ∨ isGiven u.host ∨ isGiven u.password ∨ u.port.any (· ≠ 0)) then
    some ("Invalid SQLite URL: " ++ u.text ++ "\nValid SQLite URL forms are:\n"
      ++ " sqlite:///:memory: (or, sqlite://)\n sqlite:///relative/path/to/file.db\n"
      ++ " sqlite:////absolute/path/to/file.db")
  else none

/-- The target of a link, once its driver can be used. -/
def engineTarget (files : Files) (link : Link) : Except Failure DatabaseUrl :=
  let failed (reason : String) : Failure :=
    .noted .connection ("Failed to create database engine: " ++ reason) []
  match link.settings.target files with
  | .error (.plain _ message) => .error (failed message)
  | .error f => .error f
  | .ok u =>
    match link.poolOptions with
    | .error f => .error (failed f.message)
    | .ok _ =>
      match driverProblem? link.dialect u, formProblem? link.dialect u with
      | some reason, _ | none, some reason => .error (failed reason)
      | none, none => .ok u

/-! ## Reaching the database -/

/-- Where a database is kept. -/
inductive Location where
  | memory
  | file (path : String)
  | server
  deriving DecidableEq, Repr

def location (link : Link) (u : DatabaseUrl) : Location :=
  match link.dialect with
  | .postgresql => .server
  | .sqlite =>
    if Settings.isMemoryUrl u then .memory else .file (Files.resolved (u.database.getD ""))

/-- Why a database cannot be opened: its file has to stand in a directory that is there. -/
def Location.fault? (files : Files) : Location → Option Database.Fault
  | memory => none
  | server => some (.operational "connection refused")
  | file path =>
    if Files.isTooLong path ∨ files.isDirectory path ∨ ¬ files.isDirectory (Files.parent path) then
      some (.operational "unable to open database file")
    else none

/-- A failure to make the engine is a failure to connect, whatever was being done. -/
def connectFailure (doing : String) : Failure → Failure
  | .noted .connection message context => .noted .connection message context
  | f => .noted .connection (doing ++ ": " ++ f.message) []

/-- Reaches the database and does nothing there. -/
def reach (files : Files) (link : Link) (doing : String) : Except Failure DatabaseUrl :=
  match link.engineTarget files with
  | .error f => .error (connectFailure doing f)
  | .ok u =>
    match (link.location u).fault? files with
    | some fault => .error (.noted .connection (doing ++ ": " ++ fault.report none) [])
    | none => .ok u

/-- Whether the database answers. -/
def test (files : Files) (link : Link) : Except Failure Unit :=
  (link.reach files "Database connection test failed").map fun _ => ()

structure ServerInfo where
  dialect : Dialect
  version : String
  database : String
  user : Option String
  url : String
  deriving DecidableEq, Repr

def serverInfo (version : String) (files : Files) (link : Link) : Except Failure ServerInfo := do
  let u ← link.reach files "Failed to query server info"
  let database := (u.database.filter (! ·.isEmpty)).getD ":memory:"
  return ⟨link.dialect, version, database, none, ← link.url⟩

/-- Whether the engine can be made, reached or not. -/
def canOpen (files : Files) (link : Link) : Bool :=
  match link.engineTarget files with
  | .ok _ => true
  | .error _ => false

end Link

end EntityStore
