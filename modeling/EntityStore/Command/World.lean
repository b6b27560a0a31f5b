import EntityStore.Command.Argument
import EntityStore.Command.Request

/-!
# The world of commands

Commands work among environment variables, files and databases. Each command opens a store of its
own; what it stored, the clock and the accepted descriptors go on to the next command.
-/

namespace EntityStore

structure World where
  environment : Settings.Environment := []
  files : Files := {}
  disk : Disk := []
  clock : Clock := .standard
  registry : Registry := {}
  /-- The version that databases tell. -/
  databaseVersion : String

/-- A command at work: its world, its store once it was opened, and what it printed. -/
structure Desk where
  world : World
  invocation : Invocation
  store : Option Store := none
  printed : String := ""

/-- The work of a command; what was printed and stored before a failure stays. -/
abbrev Work := ExceptT Failure (StateM Desk)

namespace Work

def form : Work ReportForm := do return (← get).invocation.form

def printText (text : String) : Work Unit :=
  modify fun desk => { desk with printed := desk.printed ++ text }

/-- Prints a report, as far as it can be drawn. -/
def say (blocks : List Console.Block) : Work Unit := do
  let p := Console.print blocks
  printText p.text
  match p.flaw with
  | some flaw => throw (.plain .badMarkup flaw.message)
  | none => return

/-- Reports a failure and passes it on. -/
def reporting {α : Type} (w : Work α) : Work α :=
  tryCatch w fun f => do
    say (Report.failure (← form) f)
    throw f

/-! ## Files -/

def lastLine (cs : List Char) : List Char := (cs.reverse.takeWhile (· ≠ '\n')).reverse

/-- Where a flaw of a text is: its line and column, and its position. -/
def placeText (text : String) (position : Nat) : String :=
  let before := text.toList.take position
  "line " ++ toString (before.count '\n' + 1) ++ " column "
    ++ toString ((lastLine before).length + 1) ++ " (char " ++ toString position ++ ")"

def documentFailure (text : String) : Json.Flaw → Failure
  | .fault what position =>
    .plain .badValue (what.message ++ ": " ++ placeText text position)
  | .numberTooLong digits => .digitLimit digits

/-- Reads a JSON document. -/
def document (files : Files) (path : String) : Except Failure Value :=
  if Files.isTooLong path then
    .error (.plain .other (FileFault.tooLong.message (Files.normalPath path)))
  else if ¬ files.exists? path then .error (.plain .missingFile ("File not found: " ++ path))
  else
    match files.readText path with
    | .error (.unopened fault) =>
      .error (.plain .isDirectory (fault.message (Files.normalPath path)))
    | .error (.undecodable fault) => .error (.plain .undecodable fault.message)
    | .ok text => (Json.read text).mapError (documentFailure text)

/-- Reads the JSON object in a file; `what` names the file in the failure. -/
def objectIn (what path : String) : Work (List (String × Value)) := do
  match ← ofExcept (document (← get).world.files path) with
  | .mapping entries => return entries
  | _ => throw (.plain .badValue (what ++ " file must contain a JSON object: " ++ path))

/-- Loads the descriptor in a file. -/
def entity (path : String) : Work Registered := do
  let entries ← objectIn "Descriptor" path
  let world := (← get).world
  match world.registry.load (.mapping entries) with
  | .ok (e, registry) =>
    modify fun desk => { desk with world := { desk.world with registry := registry } }
    return e
  | .error f => throw f.failure

/-! ## The store -/

def openStore (desk : Desk) : Except Failure Store := do
  let settings ← Settings.resolve desk.invocation.database desk.invocation.echo
    desk.world.environment
  let link ← Link.ofSettings settings
  let store ← Store.ofLink link ({} : Paging).largest
  return { store with
    files := desk.world.files, disk := desk.world.disk, clock := desk.world.clock }

/-- The store of the command, opened where it was not. -/
def store : Work Store := do
  let desk ← get
  match desk.store with
  | some s => return s
  | none =>
    let s ← ofExcept (openStore desk)
    set { desk with store := some s }
    return s

def act {α : Type} (a : Action α) : Work α := do
  let (r, s) := a.run (← store)
  modify fun desk => { desk with store := some s }
  ofExcept r

end Work

namespace Desk

/-- The world that a command leaves behind. -/
def leave (desk : Desk) : World :=
  match desk.store with
  | some s => { desk.world with disk := s.disk, clock := s.clock }
  | none => desk.world

end Desk

end EntityStore
