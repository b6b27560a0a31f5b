import EntityStore.Failure
import EntityStore.Schema.Dialect
import EntityStore.Schema.Table
import EntityStore.Text.Parts

/-!
# Statements

The statements that bring a table into being, in the order in which they are run, and their text in
either dialect. Every one may be run again and leaves the same result.
-/

namespace EntityStore

/-! ## Literals -/

/-- A text in single quotes, with quotes inside it written twice; the first dialect also writes
percent signs twice. -/
def Dialect.textLiteral (dialect : Dialect) (s : String) : String :=
  let escape (c : Char) : List Char :=
    if c = '\'' then ['\'', '\'']
    else if c = '%' ∧ dialect = .postgresql then ['%', '%']
    else [c]
  "'" ++ String.ofList (s.toList.flatMap escape) ++ "'"

def Dialect.boolLiteral : Dialect → Bool → String
  | .postgresql, b => if b then "true" else "false"
  | .sqlite, b => if b then "1" else "0"

def Dialect.defaultLiteral (dialect : Dialect) : Default → String
  | .bool b => dialect.boolLiteral b
  | .int n => toString n
  | .float x => x.toText
  | .text s => dialect.textLiteral s

/-- Whether a default has to stand in parentheses: where it is no text and more than one word. -/
def needsParentheses (literal : String) : Bool :=
  match literal.toList with
  | '\'' :: _ => false
  | cs => cs.any (! isWordChar ·)

def ColumnDefault.sql (dialect : Dialect) : ColumnDefault → String
  | .now => "CURRENT_TIMESTAMP"
  | .literal d =>
    let literal := dialect.defaultLiteral d
    if dialect = .sqlite ∧ needsParentheses literal then "(" ++ literal ++ ")" else literal

/-! ## Columns -/

def ColumnType.sql (dialect : Dialect) : ColumnType → String
  | .varchar n => "VARCHAR(" ++ toString n ++ ")"
  | .text => "TEXT"
  | .integer => "INTEGER"
  | .bigint => "BIGINT"
  | .smallint => "SMALLINT"
  | .numeric none _ => "NUMERIC"
  | .numeric (some p) none => "NUMERIC(" ++ toString p ++ ")"
  | .numeric (some p) (some s) => "NUMERIC(" ++ toString p ++ ", " ++ toString s ++ ")"
  | .real => "REAL"
  | .double => match dialect with
    | .postgresql => "DOUBLE PRECISION"
    | .sqlite => "DOUBLE"
  | .date => "DATE"
  | .timestamp => match dialect with
    | .postgresql => "TIMESTAMP WITH TIME ZONE"
    | .sqlite => "DATETIME"
  | .boolean => "BOOLEAN"

def Column.sql (dialect : Dialect) (c : Column) : String :=
  dialect.nameText c.name ++ " " ++ c.type.sql dialect
    ++ (match c.default with
        | some d => " DEFAULT " ++ d.sql dialect
        | none => "")
    ++ (if c.nullable then "" else " NOT NULL")

/-! ## Statements -/

inductive Statement where
  | createTable (t : TableSchema)
  | createIndex (table : String) (index : ColumnKey)
  | touchFunction
  | dropTrigger (table trigger : String)
  | createTrigger (table trigger : String)
  deriving DecidableEq, Repr

def touchFunctionName : String := "formscaffold_touch_updated_at"

namespace Statement

def keyText (dialect : Dialect) (key : ColumnKey) : String :=
  "CONSTRAINT " ++ dialect.nameText key.name ++ " UNIQUE (" ++ dialect.nameText key.column ++ ")"

def createTableText (dialect : Dialect) (t : TableSchema) : String :=
  let parts := t.columns.map (·.sql dialect) ++ ["PRIMARY KEY (id)"]
    ++ t.uniqueKeys.map (keyText dialect)
  "\nCREATE TABLE IF NOT EXISTS " ++ dialect.nameText t.name ++ " (\n\t"
    ++ String.intercalate ", \n\t" parts ++ "\n)\n\n"

def createIndexText (dialect : Dialect) (table : String) (index : ColumnKey) : String :=
  "CREATE INDEX IF NOT EXISTS " ++ dialect.nameText index.name ++ " ON " ++ dialect.nameText table
    ++ " (" ++ dialect.nameText index.column ++ ")"

def touchFunctionText : String :=
  "CREATE OR REPLACE FUNCTION " ++ touchFunctionName ++ "()\nRETURNS TRIGGER AS $$\nBEGIN\n"
    ++ "    NEW.updated_at = NOW();\n    RETURN NEW;\nEND;\n$$ LANGUAGE plpgsql"

def dropTriggerText (dialect : Dialect) (table trigger : String) : String :=
  "DROP TRIGGER IF EXISTS " ++ dialect.nameText trigger ++ match dialect with
    | .postgresql => " ON " ++ dialect.nameText table
    | .sqlite => ""

def createTriggerText (dialect : Dialect) (table trigger : String) : String :=
  let table := dialect.nameText table
  "CREATE TRIGGER " ++ dialect.nameText trigger ++ match dialect with
    | .postgresql =>
      "\n    BEFORE UPDATE ON " ++ table ++ "\n    FOR EACH ROW\n    EXECUTE FUNCTION "
        ++ touchFunctionName ++ "()"
    | .sqlite =>
      "\n    AFTER UPDATE ON " ++ table
        ++ "\n    FOR EACH ROW WHEN NEW.updated_at IS OLD.updated_at\nBEGIN\n    UPDATE " ++ table
        ++ " SET updated_at = CURRENT_TIMESTAMP WHERE id = NEW.id;\nEND"

def sql (dialect : Dialect) : Statement → String
  | createTable t => createTableText dialect t
  | createIndex table index => createIndexText dialect table index
  | touchFunction => touchFunctionText
  | dropTrigger table trigger => dropTriggerText dialect table trigger
  | createTrigger table trigger => createTriggerText dialect table trigger

end Statement

namespace TableSchema

/-- The statements that make the table, in order. -/
def statements (dialect : Dialect) (t : TableSchema) : List Statement :=
  [.createTable t] ++ t.indexes.map (.createIndex t.name)
    ++ (match dialect with
        | .postgresql => [.touchFunction]
        | .sqlite => [])
    ++ [.dropTrigger t.name t.trigger, .createTrigger t.name t.trigger]

/-- The statements as one text. -/
def render (dialect : Dialect) (t : TableSchema) : String :=
  String.intercalate ";\n\n" ((t.statements dialect).map fun s =>
    String.ofList (trimBlanks (s.sql dialect).toList)) ++ ";\n"

/-- The statements in the dialect of a name. -/
def renderFor (name : String) (t : TableSchema) : Except Failure String :=
  match Dialect.ofWord? name with
  | some dialect => .ok (t.render dialect)
  | none =>
    .error (.plain .badValue
      ("Unsupported dialect '" ++ name ++ "'. Supported: "
        ++ String.intercalate ", " (Dialect.all.map (·.word))))

end TableSchema

end EntityStore
