import EntityStore.Connection.Link
import EntityStore.Database.Query
import EntityStore.Entity.Registry
import EntityStore.Store.Clock

/-!
# Stores

A store keeps the records of entities in one database. It remembers which descriptors were applied
to the database; before anything is done with the records of an entity, its table is made as its
descriptor asks. The statements are applied one by one. When one fails though the table is there,
all are applied once more.
-/

namespace EntityStore

/-- An entity bound to a store. Binding one name to another descriptor makes a new handle. -/
structure Handle where
  number : Nat
  entity : Registered

/-- File databases by the path of their file. -/
abbrev Disk := List (String × Database)

structure Paging where
  largest : Int := 100
  standard : Int := 50
  deriving DecidableEq, Repr

structure Store where
  link : Link
  paging : Paging := {}
  files : Files := {}
  disk : Disk := []
  memory : Database := {}
  /-- Whether the engine was made and not yet disposed of. -/
  isOpen : Bool := false
  /-- Places of the descriptors that were applied. -/
  applied : List Nat := []
  /-- The handle of each name. -/
  bound : List (String × Handle) := []
  made : Nat := 0
  clock : Clock := .standard

/-- What a store does: it may fail, and what it did until then stays. -/
abbrev Action := ExceptT Failure (StateM Store)

namespace Action

def ofExcept {α : Type} : Except Failure α → Action α
  | .ok a => pure a
  | .error f => throw f

/-- Runs an action for its result, failure included. -/
def guarded {α : Type} (a : Action α) : Action (Except Failure α) := fun s =>
  let (r, s) := a.run s
  (.ok r, s)

end Action

namespace Paging

def check (p : Paging) : Except Failure Unit :=
  if 1 ≤ p.standard ∧ p.standard ≤ p.largest then .ok ()
  else .error (.plain .badValue "default_page_size must be between 1 and max_page_size")

end Paging

namespace Store

/-- A store over a link, with the standard size of pages. -/
def ofLink (link : Link) (largest : Int) : Except Failure Store := do
  let paging : Paging := { largest := largest }
  paging.check
  return { link := link, paging := paging }

/-! ## Databases -/

/-- Makes the engine where there is none, and tells where the database is. -/
def engine : Action Link.Location := do
  let s ← get
  let u ← Action.ofExcept (s.link.engineTarget s.files)
  set { s with isOpen := true }
  return s.link.location u

/-- Whether there is a file at a place that holds something else than a database. -/
def isForeign (s : Store) : Link.Location → Bool
  | .file path =>
    match s.disk.lookup path, s.files.find? path with
    | none, some (.file bytes) => !bytes.isEmpty
    | _, _ => false
  | _ => false

def notDatabase : Database.Fault := .driver .general "file is not a database" none false

/-- The database at a place, if it can be opened and read. -/
def databaseAt (s : Store) (place : Link.Location) : Except Database.Fault Database :=
  match place.fault? s.files, place with
  | some fault, _ => .error fault
  | none, .file path =>
    if s.isForeign place then .error notDatabase else .ok ((s.disk.lookup path).getD {})
  | none, _ => .ok s.memory

/-- What is told where a statement was the first for a database that cannot be used: a file that is
no database is noticed by the statement only. -/
def firstReport (s : Store) (place : Link.Location) (statement : String)
    (fault : Database.Fault) : String :=
  fault.report (if s.isForeign place then some statement else none)

def putDatabase (s : Store) (place : Link.Location) (db : Database) : Store :=
  match place with
  | .file path => { s with disk := (path, db) :: s.disk.filter (·.1 ≠ path) }
  | _ => { s with memory := db }

/-- Runs statements for an operation on an entity. The database changes only if all of them, and the
reading of their result, succeed. -/
def transaction {α : Type} (entity operation : String)
    (run : Database → Except Failure (Database × α)) : Action α := do
  let place ← engine
  let s ← get
  match s.databaseAt place with
  | .error fault => throw (fault.failure entity operation)
  | .ok db =>
    let (after, a) ← Action.ofExcept (run db)
    set (s.putDatabase place after)
    return a

/-! ## Applying descriptors -/

/-- A disturbance of the application of a descriptor: it fails before it does anything, or after it
did all. -/
structure Interruption where
  isBefore : Bool
  reason : String
  deriving DecidableEq, Repr

/-- Applies the statements of a table; answers why they failed, if they did. -/
def applyOnce (t : TableSchema) : Action (Option String) := do
  let place ← engine
  let s ← get
  let statements := t.statements .sqlite
  match s.databaseAt place with
  | .error fault =>
    return some (s.firstReport place (((statements.head?).map (·.sql .sqlite)).getD "") fault)
  | .ok db =>
    let (after, problem) := db.applyAll statements
    set (s.putDatabase place after)
    return problem.map fun (statement, fault) => fault.report (some (statement.sql .sqlite))

def applyInterrupted (t : TableSchema) : Option Interruption → Action (Option String)
  | none => applyOnce t
  | some i => do
    if i.isBefore then return some i.reason
    match ← applyOnce t with
    | some reason => return some reason
    | none => return some i.reason

/-- Whether a table is there; a database that cannot be opened has none. -/
def hasTable (name : String) : Action Bool := do
  let place ← engine
  match (← get).databaseAt place with
  | .error _ => return false
  | .ok db => return db.has name

def isApplied (s : Store) (e : Registered) : Bool := s.applied.contains e.place

def remember (e : Registered) : Action Unit :=
  modify fun s => { s with applied := e.place :: s.applied }

/-- Applies a descriptor unless that was done before. Answers how often its statements were applied,
and the table. -/
def ensureInterrupted (interruptions : List (Option Interruption)) (e : Registered) :
    Action (Nat × Except Failure TableSchema) := do
  let t := TableSchema.ofDescriptor e.descriptor
  if (← get).isApplied e then return (0, .ok t)
  match ← applyInterrupted t (interruptions.getD 0 none) with
  | none =>
    remember e
    return (1, .ok t)
  | some reason =>
    if ← hasTable t.name then
      match ← applyInterrupted t (interruptions.getD 1 none) with
      | none =>
        remember e
        return (2, .ok t)
      | some reason => return (2, .error (.schemaSync t.name reason))
    else return (1, .error (.schemaSync t.name reason))

/-- The table of an entity, made where it was not. -/
def ensure (e : Registered) : Action TableSchema := do
  let (_, r) ← ensureInterrupted [] e
  Action.ofExcept r

/-! ## Handles, times and ids -/

/-- Binds an entity; a name that is bound to the same descriptor keeps its handle. -/
def bind (e : Registered) : Action Handle := do
  let s ← get
  match s.bound.lookup e.descriptor.name with
  | some handle =>
    if handle.entity.place = e.place then return handle else make s
  | none => make s
where
  make (s : Store) : Action Handle := do
    let handle : Handle := ⟨s.made, e⟩
    set { s with
      made := s.made + 1
      bound := (e.descriptor.name, handle) :: s.bound.filter (·.1 ≠ e.descriptor.name) }
    return handle

def readClock : Action Timestamp := do
  let s ← get
  let (now, later) ← Action.ofExcept s.clock.read
  set { s with clock := later }
  return now

def issueId : Action String := do
  let s ← get
  let (id, clock) := s.clock.issue
  set { s with clock := clock }
  return id

def advance (micros : Int) : Action Unit := do
  let s ← get
  let clock ← Action.ofExcept (s.clock.advance micros)
  set { s with clock := clock }

/-- Forgets which descriptors were applied. -/
def reset : Action Unit := modify fun s => { s with applied := [] }

/-- Disposes of the engine; what was kept in memory only is lost. -/
def close : Action Unit := modify fun s => { s with isOpen := false, memory := {} }

def test : Action Unit := do
  let s ← get
  set { s with isOpen := s.isOpen || s.link.canOpen s.files }
  Action.ofExcept (s.link.test s.files)

def serverInfo (version : String) : Action Link.ServerInfo := do
  let s ← get
  set { s with isOpen := s.isOpen || s.link.canOpen s.files }
  Action.ofExcept (s.link.serverInfo version s.files)

end Store

end EntityStore
