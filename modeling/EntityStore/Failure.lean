import EntityStore.Refusal
import EntityStore.Value

/-!
# Failures

What an operation answers when it cannot do its work. Every failure has a kind, a message and a
context: the facts that the message is made of, for programs.
-/

namespace EntityStore

/-- Kinds of failure that carry a message and a context of their own. -/
inductive NotedKind where
  | general
  | query
  | configuration
  | storage
  | connection
  | timeout
  deriving DecidableEq, Repr

/-- Kinds of failure that carry a message only. -/
inductive PlainKind where
  | badValue
  | overflow
  | typeMismatch
  | noSuchOperation
  | invalidOperation
  | undecodable
  | missingKey
  | notFound
  | missingFile
  | isDirectory
  | badMarkup
  | unwritable
  | other
  deriving DecidableEq, Repr

inductive Failure where
  | descriptor (entity : String) (problems : List String)
  | validation (entity : String) (violations : List Violation)
  | fieldNotFound (field entity : String) (available : List String)
  | uniqueViolation (entity : String) (field : Option String) (detail : String)
  | schemaSync (table reason : String)
  /-- Settings that cannot be read as they stand. -/
  | settings (problems : List Problem)
  | noted (kind : NotedKind) (message : String) (context : List (String × Value))
  | plain (kind : PlainKind) (message : String)
  deriving Inhabited

namespace NotedKind

def word : NotedKind → String
  | general => "FormScaffoldError"
  | query => "QueryError"
  | configuration => "ConfigurationError"
  | storage => "StorageError"
  | connection => "ConnectionError"
  | timeout => "StorageTimeoutError"

end NotedKind

namespace Violation

def toValue (v : Violation) : Value :=
  .mapping [("field", .text v.field), ("reason", .text v.cause.message),
    ("code", .text v.cause.code)]

/-- The messages of each field, fields in the order of their first violation. -/
def byField (violations : List Violation) : List (String × List String) :=
  (violations.map (·.field)).eraseDups.map fun field =>
    (field, (violations.filter (·.field = field)).map (·.cause.message))

end Violation

namespace Failure

/-- The word for the kind of a failure of the store; other failures have none. -/
def word? : Failure → Option String
  | descriptor .. => some "DescriptorError"
  | validation .. => some "ValidationError"
  | fieldNotFound .. => some "FieldNotFoundError"
  | uniqueViolation .. => some "UniqueViolationError"
  | schemaSync .. => some "SchemaSyncError"
  | noted kind .. => some kind.word
  | settings _ | plain .. => none

def message : Failure → String
  | descriptor entity problems =>
    "Entity descriptor '" ++ entity ++ "' is invalid: " ++ String.intercalate "; " problems
  | validation entity violations =>
    "Validation failed for '" ++ entity ++ "' on: "
      ++ String.intercalate ", " (violations.map (·.field)).eraseDups
  | fieldNotFound field entity available =>
    "Field '" ++ field ++ "' not found on '" ++ entity ++ "'. "
      ++ (if available.isEmpty then "No fields defined."
          else "Available fields: " ++ String.intercalate ", " available)
  | uniqueViolation entity field _ =>
    match field.filter (! ·.isEmpty) with
    | some name => "A '" ++ entity ++ "' record with this '" ++ name ++ "' already exists."
    | none => "A '" ++ entity ++ "' record with these values already exists."
  | schemaSync table reason =>
    "Cannot synchronize schema for table '" ++ table ++ "': " ++ reason
  | settings problems =>
    String.intercalate "; " (problems.map fun p => p.placeText ++ ": " ++ p.cause.message)
  | noted _ message _ => message
  | plain .missingKey key => quoted key
  | plain _ message => message

def context : Failure → List (String × Value)
  | descriptor entity problems =>
    [("entity_name", .text entity), ("problems", .list (problems.map .text))]
  | validation entity violations =>
    [("entity_name", .text entity), ("violations", .list (violations.map Violation.toValue))]
  | fieldNotFound field entity available =>
    [("field_name", .text field), ("entity_name", .text entity),
      ("available_fields", .list (available.map .text))]
  | uniqueViolation entity field detail =>
    [("entity_name", .text entity),
      ("field_name", (field.map Value.text).getD .null), ("detail", .text detail)]
  | schemaSync table reason => [("table_name", .text table), ("reason", .text reason)]
  | noted _ _ context => context
  | settings _ | plain .. => []

/-- A failure as a mapping for programs. -/
def toValue (f : Failure) : Value :=
  match f.word? with
  | some word =>
    .mapping [("error", .text word), ("message", .text f.message), ("context", .mapping f.context)]
  | none => .mapping [("error", .text f.message)]

/-- Whole numbers with more digits than a conversion takes are refused. -/
def digitLimit (digits : Nat) : Failure :=
  .plain .badValue
    ("Exceeds the limit (4300 digits) for integer string conversion: value has "
      ++ toString digits ++ " digits; use sys.set_int_max_str_digits() to increase the limit")

end Failure

end EntityStore
