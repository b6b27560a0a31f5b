import EntityStore.Database.Cell
import EntityStore.Entity.Same
import EntityStore.Failure

/-!
# Values in cells

How a value is laid down in a cell of a column, and how a cell is read back as a value. Numbers with
decimals are kept as binary numbers and read back with the places of their column; truth values are
one and zero; dates and timestamps are texts, a timestamp without its zone.
-/

namespace EntityStore

namespace Database

/-- Why a value cannot be laid down. -/
inductive BindFault where
  | notDate
  | notTimestamp
  | hugeNumber
  /-- The integer does not fit; the statement is not wrapped up with the fault. -/
  | hugeInteger
  deriving DecidableEq, Repr

def BindFault.message : BindFault → String
  | notDate => "(builtins.TypeError) SQLite Date type only accepts Python date objects as input."
  | notTimestamp =>
    "(builtins.TypeError) SQLite DateTime type only accepts Python datetime and date objects as input."
  | hugeNumber => "(builtins.OverflowError) int too large to convert to float"
  | hugeInteger => "Python int too large to convert to SQLite INTEGER"

/-- A binary number, of which a NaN holds nothing. -/
def realCell : Binary64 → Cell
  | .nan => .null
  | x => .real x

/-- The text of a timestamp, always with six digits of a second. -/
def timestampCell (t : Timestamp) : Cell :=
  .text (Iso.dateText t.date ++ " " ++ Iso.padded 2 t.hour ++ ":" ++ Iso.padded 2 t.minute ++ ":"
    ++ Iso.padded 2 t.second ++ "." ++ Iso.padded 6 t.micro)

def isBinary : ColumnType → Bool
  | .numeric .. | .real | .double => true
  | _ => false

def intCell (n : Int) : Except BindFault Cell :=
  if Cell.fitsInt n then .ok (.int n) else .error .hugeInteger

/-- A value as it is, where its column asks for no other form. -/
def plainCell : Value → Except BindFault Cell
  | .null => .ok .null
  | .bool b => .ok (.int (if b then 1 else 0))
  | .int n => intCell n
  | .float x => .ok (realCell x)
  | .decimal d => .ok (realCell d.toBinary64)
  | v => .ok (.text v.plain)

/-- The cell of a value in a column of a type. -/
def bind (type : ColumnType) (v : Value) : Except BindFault Cell :=
  match type, v with
  | _, .null => .ok .null
  | .date, .date d => .ok (.text (Iso.dateText d))
  | .date, .timestamp t => .ok (.text (Iso.dateText t.date))
  | .date, _ => .error .notDate
  | .timestamp, .timestamp t => .ok (timestampCell t)
  | .timestamp, .date d => .ok (.text (Iso.dateText d ++ " 00:00:00.000000"))
  | .timestamp, _ => .error .notTimestamp
  | type, .int n =>
    if isBinary type then
      match Binary64.ofInt n with
      | .infinity _ => .error .hugeNumber
      | x => .ok (realCell x)
    else intCell n
  | _, v => plainCell v

/-- Digits after the point where a column names none. -/
def standardScale : Nat := 10

/-- Why a cell cannot be read as a value of a type. -/
inductive ReadFault where
  | notNumber
  | notText
  | notIso (text : String)
  deriving DecidableEq, Repr

def ReadFault.failure : ReadFault → Failure
  | notNumber => .plain .typeMismatch "must be real number, not str"
  | notText => .plain .typeMismatch "fromisoformat: argument must be str"
  | notIso text => .plain .badValue ("Invalid isoformat string: " ++ quoted text)

/-- A cell as a value, in whatever column. -/
def plainValue : Cell → Value
  | .null => .null
  | .int n => .int n
  | .real x => .float x
  | .text s => .text s

def fixedDecimal (scale : Option Nat) (x : Binary64) : Value :=
  match Decimal.ofText? (x.toFixed (scale.getD standardScale)) with
  | some d => .decimal d
  | none => .float x

/-- The value of a cell in a column of a type; a timestamp stands in universal time. -/
def readCell (type : ColumnType) (c : Cell) : Except ReadFault Value :=
  match type, c with
  | _, .null => .ok .null
  | .numeric _ scale, .real x => .ok (fixedDecimal scale x)
  | .numeric _ scale, .int n => .ok (fixedDecimal scale (Binary64.ofInt n))
  | .numeric .., .text _ => .error .notNumber
  | .boolean, .int n => .ok (.bool (n ≠ 0))
  | .boolean, .real x => .ok (.bool (! x.sameValue .zero))
  | .boolean, .text s => .ok (.bool (! s.isEmpty))
  | .date, .text s =>
    match Iso.date? s with
    | some d => .ok (.date d)
    | none => .error (.notIso s)
  | .date, _ => .error .notText
  | .timestamp, .text s =>
    match (Iso.timestamp? s).bind Timestamp.toUtc? with
    | some t => .ok (.timestamp t)
    | none => .error (.notIso s)
  | .timestamp, _ => .error .notText
  | _, c => .ok (plainValue c)

end Database

end EntityStore
