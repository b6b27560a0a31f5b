import EntityStore.Failure
import EntityStore.Text.WordChar

/-!
# Database faults

What goes wrong while a statement runs, and the failure that the store answers. A fault is told apart
by its class, by its state code and by phrases that drivers put into their messages.
-/

namespace EntityStore

namespace Database

/-- The classes of faults that a driver reports. -/
inductive FaultClass where
  | integrity
  | operational
  | interface
  | programming
  | data
  | internal
  | notSupported
  | general
  deriving DecidableEq, Repr

namespace FaultClass

def word : FaultClass → String
  | integrity => "IntegrityError"
  | operational => "OperationalError"
  | interface => "InterfaceError"
  | programming => "ProgrammingError"
  | data => "DataError"
  | internal => "InternalError"
  | notSupported => "NotSupportedError"
  | general => "DatabaseError"

def all : List FaultClass :=
  [integrity, operational, interface, programming, data, internal, notSupported, general]

def ofWord? (w : String) : Option FaultClass := all.find? (·.word = w)

/-- The page on which a class is explained. -/
def page : FaultClass → String
  | integrity => "gkpj"
  | operational => "e3q8"
  | interface => "rvf5"
  | programming => "f405"
  | data => "9h9h"
  | internal => "2j85"
  | notSupported => "tw8g"
  | general => "4xp6"

/-- What is told of a fault: what raised it, the statement if there was one, and where to read
more. -/
def report (cls : FaultClass) (origin message : String) (statement : Option String) : String :=
  "(" ++ origin ++ ") " ++ message
    ++ (match statement with
        | some sql => "\n[SQL: " ++ sql ++ "]"
        | none => "")
    ++ "\n(Background on this error at: https://sqlalche.me/e/21/" ++ cls.page ++ ")"

end FaultClass

inductive Fault where
  /-- No connection became free in time. -/
  | poolTimeout (message : String)
  | driver (cls : FaultClass) (message : String) (state : Option String) (invalidated : Bool)
  /-- A statement that did not reach the driver. -/
  | client (message : String)
  deriving DecidableEq, Repr

/-- What follows the first place where a marker occurs, in a form that a reading accepts. -/
def afterMarker? {α : Type} (marker : List Char) (read : List Char → Option α) :
    List Char → Option α
  | [] => if marker.isEmpty then read [] else none
  | c :: rest =>
    let here := if marker.isPrefixOf (c :: rest) then read ((c :: rest).drop marker.length) else none
    match here with
    | some a => some a
    | none => afterMarker? marker read rest

def occursIn (marker text : String) : Bool :=
  (afterMarker? marker.toList (fun _ => some ()) text.toList).isSome

/-- The column list of a key, which a closing parenthesis and an equals sign end. -/
def keyColumns? (cs : List Char) : Option (List Char) :=
  let columns := cs.takeWhile (· ≠ ')')
  if columns.isEmpty then none
  else
    match cs.dropWhile (· ≠ ')') with
    | ')' :: '=' :: _ => some columns
    | _ => none

/-- Names joined by points. -/
def pathColumns? (cs : List Char) : Option (List Char) :=
  let path := cs.takeWhile fun c => isWordChar c || c = '.'
  if path.isEmpty then none else some path

def trimBy (drop : Char → Bool) (cs : List Char) : List Char :=
  ((cs.dropWhile drop).reverse.dropWhile drop).reverse

def uniqueMarker : String := "UNIQUE constraint failed"

/-- The field that a message about a repeated value names: the first column of the key, or the last
name of the path. -/
def uniqueField? (message : String) : Option String :=
  match afterMarker? "Key (".toList keyColumns? message.toList with
  | some columns =>
    let first := columns.takeWhile (· ≠ ',')
    some (String.ofList (trimBy (· = '"') (trimBy isBlank first)))
  | none =>
    (afterMarker? (uniqueMarker ++ ": ").toList pathColumns? message.toList).map fun path =>
      String.ofList (path.reverse.takeWhile (· ≠ '.')).reverse

def uniqueState : String := "23505"
def canceledState : String := "57014"
def connectionStates : String := "08"

def connectionMarkers : List String :=
  ["could not connect", "connection refused", "unable to open database"]

/-- The markers are ASCII, so only ASCII letters change their case. -/
def namesConnection (message : String) : Bool :=
  connectionMarkers.any (occursIn · message.toLower)

namespace Fault

def operational (message : String) : Fault := .driver .operational message none false

/-- The fault in full, with the statement that it ended. -/
def report (statement : Option String) : Fault → String
  | driver cls message _ _ => cls.report ("sqlite3." ++ cls.word) message statement
  | poolTimeout message | client message => message

def isConnectionLoss (cls : FaultClass) (message : String) (state : Option String)
    (invalidated : Bool) : Bool :=
  if invalidated ∨ cls = .interface then true
  else if cls ≠ .operational then false
  else (state.any (connectionStates.isPrefixOf ·)) || namesConnection message

/-- The failure of an operation on an entity that a fault ended. -/
def failure (entity operation : String) (fault : Fault) : Failure :=
  let context := [("entity_name", Value.text entity), ("operation", Value.text operation)]
  let failed (message : String) : Failure :=
    .noted .storage ("Failed to " ++ operation ++ " '" ++ entity ++ "': " ++ message) context
  match fault with
  | poolTimeout message =>
    .noted .timeout ("Timed out waiting for a database connection: " ++ message) context
  | client message => failed message
  | driver cls message state invalidated =>
    if cls = .integrity ∧ (state = some uniqueState ∨ occursIn uniqueMarker message) then
      .uniqueViolation entity (uniqueField? message) message
    else if state = some canceledState ∨ occursIn "database is locked" message then
      .noted .timeout ("Statement timed out during " ++ operation ++ ": " ++ message) context
    else if isConnectionLoss cls message state invalidated then
      .noted .connection ("Lost database connection during " ++ operation ++ ": " ++ message)
        context
    else failed message

end Fault

end Database

end EntityStore
