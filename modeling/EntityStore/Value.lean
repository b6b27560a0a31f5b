import EntityStore.Calendar.Iso
import EntityStore.Number.Decimal
import EntityStore.Text.Quoted

/-!
# Values

What payloads, filters and records hold: the scalars of every field kind, and lists and mappings of
values. A mapping keeps its entries in order.
-/

namespace EntityStore

inductive Value where
  | null
  | bool (b : Bool)
  | int (n : Int)
  | float (x : Binary64)
  | decimal (d : Decimal)
  | text (s : String)
  | bytes (bs : List UInt8)
  | date (d : Date)
  | timestamp (t : Timestamp)
  | uuid (s : String)
  | list (items : List Value)
  | mapping (entries : List (String × Value))
  deriving Inhabited

namespace Value

def isNull : Value → Bool
  | null => true
  | _ => false

/-- The entry of a mapping; of entries with one key the last counts. -/
def entry? (entries : List (String × Value)) (key : String) : Option Value :=
  (entries.reverse.find? (·.1 = key)).map (·.2)

/-! ## Display

`literal` shows a value as an expression for it: texts in quotes, dates and decimals by their
constructors. `plain` shows it for a reader: texts as they are, dates in ISO form. -/

def durationText (micros : Int) : String :=
  let day : Int := 86400000000
  let days := Int.fdiv micros day
  let rest := (micros - days * day).toNat
  let parts : List (String × Int) :=
    [("days", days), ("seconds", (rest / 1000000 : Nat)), ("microseconds", (rest % 1000000 : Nat))]
  let shown := (parts.filter (·.2 ≠ 0)).map fun (name, n) => name ++ "=" ++ toString n
  "datetime.timedelta(" ++ (if shown.isEmpty then "0" else String.intercalate ", " shown) ++ ")"

def zoneText (offset : Int) : String :=
  if offset = 0 then "datetime.timezone.utc"
  else "datetime.timezone(" ++ durationText offset ++ ")"

def dateLiteral (d : Date) : String :=
  "datetime.date(" ++ toString d.year ++ ", " ++ toString d.month ++ ", " ++ toString d.day ++ ")"

/-- Seconds and microseconds are left out from the end where they are zero. -/
def timestampLiteral (t : Timestamp) : String :=
  let small :=
    if t.micro ≠ 0 then [t.second, t.micro] else if t.second ≠ 0 then [t.second] else []
  let parts := [t.date.year, t.date.month, t.date.day, t.hour, t.minute] ++ small
  let zone := match t.offset with
    | none => ""
    | some offset => ", tzinfo=" ++ zoneText offset
  "datetime.datetime(" ++ String.intercalate ", " (parts.map toString) ++ zone ++ ")"

def scalarLiteral : Value → String
  | null => "None"
  | bool b => if b then "True" else "False"
  | int n => toString n
  | float x => x.toText
  | decimal d => "Decimal('" ++ d.toText ++ "')"
  | text s => quoted s
  | bytes bs => quotedBytes bs
  | date d => dateLiteral d
  | timestamp t => timestampLiteral t
  | uuid s => "UUID('" ++ s ++ "')"
  | list _ => "[]"
  | mapping _ => "\x7b\x7d"

mutual

def literal : Value → String
  | list items => "[" ++ String.intercalate ", " (literals items) ++ "]"
  | mapping entries => "\x7b" ++ String.intercalate ", " (entryLiterals entries) ++ "\x7d"
  | v => scalarLiteral v

def literals : List Value → List String
  | [] => []
  | v :: rest => literal v :: literals rest

def entryLiterals : List (String × Value) → List String
  | [] => []
  | (k, v) :: rest => (quoted k ++ ": " ++ literal v) :: entryLiterals rest

end

def plain : Value → String
  | text s => s
  | decimal d => d.toText
  | date d => Iso.dateText d
  | timestamp t => Iso.timestampText " " t
  | uuid s => s
  | v => literal v

end Value

end EntityStore
