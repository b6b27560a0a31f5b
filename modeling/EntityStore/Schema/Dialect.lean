import EntityStore.Text.WordChar

/-!
# Dialects

The two dialects in which tables are described, and how each writes a name: in quotes where the name
is a reserved word of the dialect, or is not in lower case, or has characters out of place.
-/

namespace EntityStore

inductive Dialect where
  | postgresql
  | sqlite
  deriving DecidableEq, Repr, Inhabited

namespace Dialect

def all : List Dialect := [postgresql, sqlite]

def word : Dialect → String
  | postgresql => "postgresql"
  | sqlite => "sqlite"

def ofWord? (w : String) : Option Dialect := all.find? (·.word = w)

def postgresqlReserved : List String :=
  ["all", "analyse", "analyze", "and", "any", "array", "as", "asc", "asymmetric",
    "authorization", "between", "binary", "both", "case", "cast", "check", "collate", "column",
    "constraint", "create", "cross", "current_catalog", "current_date", "current_role",
    "current_schema", "current_time", "current_timestamp", "current_user", "default",
    "deferrable", "desc", "distinct", "do", "else", "end", "except", "false", "fetch", "for",
    "foreign", "freeze", "from", "full", "grant", "group", "having", "ilike", "in", "initially",
    "inner", "intersect", "into", "is", "isnull", "join", "leading", "left", "like", "limit",
    "localtime", "localtimestamp", "natural", "new", "not", "notnull", "null", "of", "off",
    "offset", "old", "on", "only", "or", "order", "outer", "over", "overlaps", "placing",
    "primary", "references", "returning", "right", "select", "session_user", "similar", "some",
    "symmetric", "table", "then", "to", "trailing", "true", "union", "unique", "user", "using",
    "variadic", "verbose", "when", "where", "window", "with"]

def sqliteReserved : List String :=
  ["add", "after", "all", "alter", "analyze", "and", "as", "asc", "attach", "autoincrement",
    "before", "begin", "between", "by", "cascade", "case", "cast", "check", "collate", "column",
    "commit", "conflict", "constraint", "create", "cross", "current_date", "current_time",
    "current_timestamp", "database", "default", "deferrable", "deferred", "delete", "desc",
    "detach", "distinct", "drop", "each", "else", "end", "escape", "except", "exclusive",
    "exists", "explain", "fail", "false", "for", "foreign", "from", "full", "glob", "group",
    "having", "if", "ignore", "immediate", "in", "index", "indexed", "initially", "inner",
    "insert", "instead", "intersect", "into", "is", "isnull", "join", "key", "left", "like",
    "limit", "match", "natural", "not", "notnull", "null", "of", "offset", "on", "or", "order",
    "outer", "plan", "pragma", "primary", "query", "raise", "references", "reindex", "rename",
    "replace", "restrict", "right", "rollback", "row", "select", "set", "table", "temp",
    "temporary", "then", "to", "transaction", "trigger", "true", "union", "unique", "update",
    "using", "vacuum", "values", "view", "virtual", "when", "where"]

def reserved : Dialect → List String
  | postgresql => postgresqlReserved
  | sqlite => sqliteReserved

def isPlainNameChar (c : Char) : Bool := c.isAlphanum || c = '_' || c = '$'

/-- Whether a name may stand without quotes as far as its characters go; one line break may end
it. -/
def isPlainName (name : String) : Bool :=
  match name.toList with
  | [] => false
  | c :: rest =>
    let body := if rest.getLast? = some '\n' then rest.dropLast else rest
    (c.isAlpha || c = '_') && body.all isPlainNameChar

def needsQuotes (dialect : Dialect) (name : String) : Bool :=
  dialect.reserved.contains name.toLower || !isPlainName name || name.toLower ≠ name

/-- The name that stands in a statement for a name: a line break that ends a name without quotes is
no part of it. -/
def denoted (dialect : Dialect) (name : String) : String :=
  if dialect.needsQuotes name then name
  else String.ofList (name.toList.filter (· ≠ '\n'))

/-- A name as it stands in a statement; a quote inside it is written twice. -/
def nameText (dialect : Dialect) (name : String) : String :=
  let escape (c : Char) : List Char := if c = '"' then ['"', '"'] else [c]
  if dialect.needsQuotes name then "\"" ++ String.ofList (name.toList.flatMap escape) ++ "\""
  else name

end Dialect

end EntityStore
