import EntityStore.Command.Report
import EntityStore.Command.Switch
import EntityStore.Connection.Settings
import EntityStore.Number.Whole
import EntityStore.Text.LetterCase

/-!
# Requests

What a command asks for. Requests about descriptors and their tables, about records and about the
database form three groups; the switches in front of a group say where the database is and how to
report.
-/

namespace EntityStore

/-- A page of records, as it is asked for on a command line. -/
structure Listing where
  filters : List String := []
  limit : Int := 50
  offset : Int := 0
  orderBy : String := "created_at"
  direction : SortDirection := .descending

/-- What to do; descriptors are named by their file. -/
inductive Request where
  | version
  | help
  | check (file : String)
  | ddl (file : String) (dialect : Option String)
  | sync (file : String)
  | inspect (table : String)
  | create (file : String) (data source : Option String)
  | list (file : String) (listing : Listing)
  | get (file id : String)
  | update (file id data : String)
  | delete (file id : String)
  | test

structure Invocation where
  database : Option String
  echo : Bool
  form : ReportForm
  request : Request

namespace Request

/-! ## Words -/

/-- Reading words one after another. -/
abbrev Words := StateT (List String) (Except UsageFlaw)

def word? : Words (Option String) := do
  match ← MonadState.get with
  | [] => return none
  | w :: rest =>
    set rest
    return some w

def word (name : String) : Words String := do
  match ← word? with
  | some w => return w
  | none => throw (.missingWord name)

/-- Reads a request of which no word is left. -/
def whole (r : Words Request) (words : List String) : Except UsageFlaw Request := do
  match ← r.run words with
  | (request, []) => return request
  | (_, w :: _) => throw (.unexpectedWord w)

/-! ## Values of switches -/

/-- Digits that an integer may have. -/
def maxDigits : Nat := 4300

def integer (s : Switch) (absent : Int) (a : Arguments) : Except UsageFlaw Int :=
  match a.value? s with
  | none => .ok absent
  | some text =>
    match wholeNumber? text with
    | some n =>
      if (text.toList.filter isDecimalDigit).length ≤ maxDigits then .ok n
      else .error (.badInteger s text)
    | none => .error (.badInteger s text)

/-- Whether two texts differ in the case of letters only. -/
def sameLetters (a b : String) : Bool :=
  a.length = b.length
    && (a.toList.zip b.toList).all fun (x, y) => (caseVariants x.toNat).contains y.toNat

def direction (absent : SortDirection) (a : Arguments) : Except UsageFlaw SortDirection :=
  match a.value? .direction with
  | none => .ok absent
  | some text =>
    match SortDirection.all.find? fun d => sameLetters d.word text with
    | some d => .ok d
    | none => .error (.badChoice .direction text)

def listing (a : Arguments) : Except UsageFlaw Listing := do
  let standard : Listing := {}
  return {
    filters := a.values .filter
    limit := ← integer .limit standard.limit a
    offset := ← integer .offset standard.offset a
    orderBy := (a.value? .orderBy).getD standard.orderBy
    direction := ← direction standard.direction a }

/-! ## Commands -/

def descriptorWord : Words String := word "DESCRIPTOR_FILE"
def idWord : Words String := word "RECORD_ID"

/-- Reads a request from its arguments; help comes before everything else. -/
def read (known : List Switch) (build : Arguments → Except UsageFlaw Request)
    (arguments : List String) : Except UsageFlaw Request := do
  let a ← Arguments.split (.help :: known) true arguments
  if a.has .help then return .help
  build a

/-- Reads a request of words only. -/
def plainly (r : Words Request) : List String → Except UsageFlaw Request :=
  read [] fun a => whole r a.words

abbrev Command := String × (List String → Except UsageFlaw Request)

def schemaCommands : List Command :=
  [("check", plainly do return .check (← descriptorWord)),
    ("ddl", read [.dialect] fun a =>
      whole (do return .ddl (← descriptorWord) (a.value? .dialect)) a.words),
    ("sync", plainly do return .sync (← descriptorWord)),
    ("inspect", plainly do return .inspect (← word "TABLE_NAME"))]

def dataCommands : List Command :=
  [("create", read [.fromFile] fun a =>
      whole (do return .create (← descriptorWord) (← word?) (a.value? .fromFile)) a.words),
    ("list", read [.filter, .limit, .offset, .orderBy, .direction] fun a => do
      let l ← listing a
      whole (do return .list (← descriptorWord) l) a.words),
    ("get", plainly do return .get (← descriptorWord) (← idWord)),
    ("update", plainly do return .update (← descriptorWord) (← idWord) (← word "DATA_JSON")),
    ("delete", plainly do return .delete (← descriptorWord) (← idWord))]

def adminCommands : List Command := [("test", plainly (pure .test))]

/-- Picks a command by the first of its arguments. -/
def pick (commands : List Command) : List String → Except UsageFlaw Request
  | [] => .error .missingCommand
  | name :: rest =>
    match commands.lookup name with
    | some run => run rest
    | none => .error (.noSuchCommand name)

/-- A group of commands; it has no switches but the one for help. -/
def group (commands : List Command) (arguments : List String) : Except UsageFlaw Request := do
  let a ← Arguments.split [.help] false arguments
  if a.has .help then return .help
  pick commands a.words

def commands : List Command :=
  [("version", plainly (pure .version)), ("schema", group schemaCommands),
    ("data", group dataCommands), ("admin", group adminCommands)]

end Request

namespace Invocation

def switches : List Switch := [.database, .echo, .json, .verbose, .help]

/-- Reads a command line; where no database is given the environment may name it. -/
def ofArguments (environment : Settings.Environment) (arguments : List String) :
    Except UsageFlaw Invocation := do
  let a ← Arguments.split switches false arguments
  let request ← if a.has .help then pure Request.help else Request.pick Request.commands a.words
  return {
    database := (a.value? .database) <|> Settings.lookup? environment "DATABASE_URL"
    echo := a.has .echo
    form := if a.has .json then .json else .text
    request := request }

end Invocation

end EntityStore
