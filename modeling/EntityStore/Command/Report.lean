import EntityStore.Console.Block
import EntityStore.Entity.Dump
import EntityStore.Json.Reader
import EntityStore.Json.Writer
import EntityStore.Store.Query

/-!
# Reports

What commands tell: success, failures, records, descriptors, tables and statements. Each report has
a form for people and one in JSON.
-/

namespace EntityStore

/-- For whom a report is written. -/
inductive ReportForm where
  | text
  | json
  deriving DecidableEq, Repr

namespace Report

open Console

def inJson (v : Value) : List Block := [.verbatim (Json.render v)]

def detailLine (detail : String × Value) : String := detail.1 ++ ": " ++ detail.2.plain

/-- That something was done; in JSON the details stand beside the message, and may replace it. -/
def success (form : ReportForm) (message : String) (details : List (String × Value)) :
    List Block :=
  match form with
  | .json =>
    let head : List (String × Value) := [("success", .bool true), ("message", .text message)]
    inJson (.mapping (details.foldl (fun entries (k, v) => Json.putEntry entries k v) head))
  | .text =>
    .paragraph ("✓ " ++ message) :: details.map fun detail =>
      .paragraph ("  " ++ detailLine detail)

/-- What a failure tells below its message, if it tells more. -/
def failureDetails? : Failure → Option (List String)
  | .validation _ violations =>
    some ((Violation.byField violations).map fun (field, reasons) =>
      field ++ ": " ++ String.intercalate "; " reasons)
  | f => if f.context.isEmpty then none else some (f.context.map detailLine)

def failureText (f : Failure) : String :=
  match failureDetails? f with
  | some details => f.message ++ "\n\n" ++ String.intercalate "\n" details
  | none => f.message

def failure (form : ReportForm) (f : Failure) : List Block :=
  match form with
  | .json => inJson f.toValue
  | .text => [.panel "Error" (failureText f)]

/-- A cell for an entry of a row; a row may lack it. -/
def cellText (row : List (String × Value)) (column : String) : String :=
  match row.lookup column with
  | none | some .null => ""
  | some v => v.plain

def table (form : ReportForm) (title : String) (rows : List (List (String × Value)))
    (columns : List String) : List Block :=
  match form with
  | .json => inJson (.list (rows.map .mapping))
  | .text => [.grid ⟨title, columns.map fun c => ⟨c, rows.map fun row => cellText row c⟩⟩]

def mark (isSet : Bool) : String := if isSet then "✓" else ""

/-- A table without a title: each column with a reading of it from an item. -/
def gridOf {α : Type} (columns : List (String × (α → String))) (items : List α) : Grid :=
  ⟨"", columns.map fun (header, cell) => ⟨header, items.map cell⟩⟩

def fieldColumns : List (String × (Field → String)) :=
  [("Name", (·.name)), ("Kind", (·.kind.word)), ("Column", (·.storageType.word)),
    ("Required", (mark ·.required)), ("Unique", (mark ·.storage.unique)),
    ("Indexed", (mark ·.storage.index))]

/-- A line that is told only where there is something to tell. -/
def labelled (label : String) (text : Option String) : List Block :=
  match text.filter (! ·.isEmpty) with
  | some text => [.paragraph (label ++ ": " ++ text)]
  | none => []

/-- A predicate cannot be written in JSON. -/
def noWrittenForm : Failure :=
  .plain .unwritable "Unable to serialize unknown type: <class 'function'>"

def descriptor (form : ReportForm) (d : Descriptor) : Except Failure (List Block) :=
  match form with
  | .json =>
    if d.fields.any (! ·.rules.refine.isEmpty) then .error noWrittenForm else .ok (inJson d.dump)
  | .text =>
    .ok ([.paragraph ("\n[bold]Entity:[/bold] " ++ d.name)] ++ labelled "Title" d.title
      ++ labelled "Description" d.description ++ [.grid (gridOf fieldColumns d.fields)])

/-- A number with a comma in front of each three digits. -/
def grouped (n : Nat) : String :=
  let digits := (toString n).toList
  let separate := digits.zipIdx.flatMap fun (c, i) =>
    if i ≠ 0 ∧ (digits.length - i) % 3 = 0 then [',', c] else [c]
  String.ofList separate

/-- A time in JSON, in which universal time has a letter. -/
def timeText (t : Timestamp) : String :=
  if t.offset = some 0 then Iso.timestampText "T" { t with offset := none } ++ "Z"
  else Iso.timestampText "T" t

def columnValue (c : Database.ColumnReport) : Value :=
  .mapping [("name", .text c.name), ("type", .text c.type), ("nullable", .bool c.nullable),
    ("default", Dump.orNull .text c.default)]

def tableInfoValue (i : TableInfo) : Value :=
  .mapping [("name", .text i.report.name), ("columns", .list (i.report.columns.map columnValue)),
    ("indexes", .list (i.report.indexes.map .text)), ("row_count", Dump.natural i.report.rowCount),
    ("inspected_at", Dump.orNull (fun t => .text (timeText t)) i.inspectedAt)]

def columnColumns : List (String × (Database.ColumnReport → String)) :=
  [("Column", (·.name)), ("Type", (·.type)), ("Nullable", (mark ·.nullable)),
    ("Default", (·.default.getD ""))]

def tableInfo (form : ReportForm) (i : TableInfo) : List Block :=
  match form with
  | .json => inJson (tableInfoValue i)
  | .text =>
    [.paragraph ("\n[bold]Table:[/bold] " ++ i.report.name),
      .paragraph ("Rows: " ++ grouped i.report.rowCount),
      .grid (gridOf columnColumns i.report.columns)]
      ++ (if i.report.indexes.isEmpty then []
          else [.paragraph ("Indexes: " ++ String.intercalate ", " i.report.indexes)])

def statements (form : ReportForm) (text : String) : List Block :=
  match form with
  | .json => inJson (.mapping [("sql", .text text)])
  | .text => [.listing text]

def value (form : ReportForm) (v : Value) : List Block :=
  match form with
  | .json => inJson v
  | .text => [.value v]

end Report

end EntityStore
