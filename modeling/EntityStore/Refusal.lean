import EntityStore.Text.Quoted

/-!
# Refusals

Why a value is refused: each cause has a short code for programs and a message for people.
-/

namespace EntityStore

inductive Refusal where
  | missing
  | notDeclared
  | unknownField
  | readOnly
  | nullNotAllowed
  | notText
  | notUtf8
  | notInteger
  | integerText
  | fraction
  | integerTooLarge
  | notBoolean
  | booleanText
  | notNumber
  | numberText
  | notFinite
  | booleanAsNumber
  | notDecimal
  | decimalText
  | totalDigits (most : Nat)
  | fractionDigits (most : Nat)
  | wholeDigits (most : Nat)
  | notWhole
  | notPositive
  | belowMinimum (bound : String)
  | belowLeast (bound : String)
  | aboveMaximum (bound : String)
  | outsideColumn (column : String) (low high : Int)
  | tooShort (least : Nat)
  | tooLong (most : Nat)
  | patternMismatch (pattern : String)
  | notEmail
  | notUrl
  | notOneOf (options : List String)
  | notOfKind (options : List String)
  | timestampAsDate
  | notDateText
  | dateText (text : String)
  | dateAsTimestamp
  | notTimestampText
  | timestampText (text : String)
  | refinement (message : String)
  | predicateRefused (message : String)
  | predicateAsserted (message : String)
  | notMapping (model : String)
  | notTuple
  | notCallable
  | notPath
  | inconsistent (message : String)
  /-- A cause that the caller states. -/
  | stated (code message : String)
  deriving DecidableEq, Repr

namespace Refusal

def counted (n : Nat) (unit : String) : String :=
  toString n ++ " " ++ unit ++ (if n = 1 then "" else "s")

/-- Items in a row, the last one set off by a word. -/
def enumerated (word : String) : List String → String
  | [] => ""
  | [a] => a
  | items =>
    String.intercalate ", " items.dropLast ++ " " ++ word ++ " " ++ (items.getLast?.getD "")

def choiceText (options : List String) : String := enumerated "or" (options.map quoted)

def code : Refusal → String
  | missing => "missing"
  | notDeclared => "extra_forbidden"
  | unknownField => "unknown_field"
  | readOnly => "read_only"
  | nullNotAllowed => "null_not_allowed"
  | notText => "string_type"
  | notUtf8 => "string_unicode"
  | notInteger => "int_type"
  | integerText => "int_parsing"
  | fraction | notWhole => "int_from_float"
  | integerTooLarge => "int_parsing_size"
  | notBoolean => "bool_type"
  | booleanText => "bool_parsing"
  | notNumber => "float_type"
  | numberText => "float_parsing"
  | notFinite => "finite_number"
  | booleanAsNumber => "number_type"
  | notDecimal => "decimal_type"
  | decimalText => "decimal_parsing"
  | totalDigits _ => "decimal_max_digits"
  | fractionDigits _ => "decimal_max_places"
  | wholeDigits _ => "decimal_whole_digits"
  | notPositive | belowLeast _ => "greater_than"
  | belowMinimum _ => "greater_than_equal"
  | aboveMaximum _ => "less_than_equal"
  | outsideColumn .. => "int_range"
  | tooShort _ => "string_too_short"
  | tooLong _ => "string_too_long"
  | patternMismatch _ => "string_pattern_mismatch"
  | notEmail => "email"
  | notUrl => "url"
  | notOneOf _ => "literal_error"
  | notOfKind _ => "enum"
  | timestampAsDate | notDateText => "date_type"
  | dateText _ => "date_parsing"
  | dateAsTimestamp | notTimestampText => "datetime_type"
  | timestampText _ => "datetime_parsing"
  | refinement _ => "refinement"
  | predicateRefused _ | inconsistent _ => "value_error"
  | predicateAsserted _ => "assertion_error"
  | notMapping _ => "model_type"
  | notTuple => "tuple_type"
  | notCallable => "callable_type"
  | notPath => "path_type"
  | stated c _ => c

def message : Refusal → String
  | missing => "Field required"
  | notDeclared => "Extra inputs are not permitted"
  | unknownField => "Unknown field"
  | readOnly => "Managed by the engine and cannot be set"
  | nullNotAllowed => "Field cannot be null"
  | notText => "Input should be a valid string"
  | notUtf8 =>
    "Input should be a valid string, unable to parse raw data as a unicode string"
  | notInteger => "Input should be a valid integer"
  | integerText => "Input should be a valid integer, unable to parse string as an integer"
  | fraction => "Input should be a valid integer, got a number with a fractional part"
  | integerTooLarge => "Unable to parse input string as an integer, exceeded maximum size"
  | notBoolean => "Input should be a valid boolean"
  | booleanText => "Input should be a valid boolean, unable to interpret input"
  | notNumber => "Input should be a valid number"
  | numberText => "Input should be a valid number, unable to parse string as a number"
  | notFinite => "Input should be a finite number"
  | booleanAsNumber => "Input should be a number, not a boolean"
  | notDecimal => "Decimal input should be an integer, float, string or Decimal object"
  | decimalText => "Input should be a valid decimal"
  | totalDigits n => "Decimal input should have no more than " ++ counted n "digit" ++ " in total"
  | fractionDigits n =>
    "Decimal input should have no more than " ++ counted n "decimal place"
  | wholeDigits n =>
    "Decimal input should have no more than " ++ counted n "digit" ++ " before the decimal point"
  | notWhole => "Input should be a whole number"
  | notPositive => "Input should be greater than 0"
  | belowLeast b => "Input should be greater than " ++ b
  | belowMinimum b => "Input should be greater than or equal to " ++ b
  | aboveMaximum b => "Input should be less than or equal to " ++ b
  | outsideColumn c low high =>
    "Input should fit a " ++ c ++ " column (" ++ toString low ++ " to " ++ toString high ++ ")"
  | tooShort n => "String should have at least " ++ counted n "character"
  | tooLong n => "String should have at most " ++ counted n "character"
  | patternMismatch p => "String should match pattern '" ++ p ++ "'"
  | notEmail => "Invalid email format"
  | notUrl => "Invalid URL format"
  | notOneOf options | notOfKind options => "Input should be " ++ choiceText options
  | timestampAsDate => "Input should be a date, not a timestamp"
  | notDateText => "Input should be an ISO date string"
  | dateText t => "Invalid date '" ++ t ++ "'"
  | dateAsTimestamp => "Input should be a timestamp, not a date"
  | notTimestampText => "Input should be an ISO timestamp string"
  | timestampText t => "Invalid timestamp '" ++ t ++ "'"
  | refinement m => m
  | predicateRefused m | inconsistent m => "Value error, " ++ m
  | predicateAsserted m => "Assertion failed, " ++ m
  | notMapping model => "Input should be a valid dictionary or instance of " ++ model
  | notTuple => "Input should be a valid tuple"
  | notCallable => "Input should be callable"
  | notPath => "Input is not a valid path for <class 'pathlib.Path'>"
  | stated _ m => m

end Refusal

/-- A refusal and where it arose: the names and positions that lead to it. -/
structure Problem where
  place : List String
  cause : Refusal
  deriving DecidableEq, Repr

namespace Problem

def placeText (p : Problem) : String := String.intercalate "." p.place

def within (outer : String) (p : Problem) : Problem := { p with place := outer :: p.place }

end Problem

/-- A field whose value is refused. -/
structure Violation where
  field : String
  cause : Refusal
  deriving DecidableEq, Repr

end EntityStore
