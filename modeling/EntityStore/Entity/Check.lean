import EntityStore.Entity.Same
import EntityStore.Pattern.Reader
import EntityStore.Refusal

/-!
# Checking descriptors

A descriptor is accepted when nothing in it could make the validator and the table disagree. Every
problem is reported: those of the entity first, then field by field.
-/

namespace EntityStore

/-- What is wrong with one field. -/
inductive FieldProblem where
  | storageNotAllowed (type : StorageType) (kind : FieldKind)
  | lengthWithoutVarchar
  | precisionWithoutNumeric
  | scaleWithoutPrecision
  | scaleExceedsPrecision
  | ruleNotApplicable (rule : RuleName) (kind : FieldKind)
  | lengthsCrossed
  | boundsCrossed
  | badPattern (text : String)
  | noOptions
  | repeatedOptions
  | optionTooLong (length : Nat)
  | nothingToStore
  | defaultOfOtherKind (value : String) (kind : FieldKind)
  | defaultNotOption (value : String)
  | defaultNotDate (value : String)
  | defaultNotTimestamp (value : String)
  | defaultOutsideColumn (value : String)
  | defaultTooLong (length : Nat)
  deriving DecidableEq, Repr

/-- What a name names. -/
inductive NameRole where
  | entity
  | field
  deriving DecidableEq, Repr

inductive DescriptorProblem where
  | malformed (p : Problem)
  | badName (role : NameRole) (name : String)
  | longName (role : NameRole) (name : String)
  | repeatedField (name : String) (count : Nat)
  | reservedName (name : String)
  | ofField (name : String) (p : FieldProblem)
  deriving DecidableEq, Repr

def maxIdentifierLength : Nat := 63

def NameRole.text : NameRole → String
  | entity => "entity name"
  | field => "field name"

def FieldProblem.message : FieldProblem → String
  | storageNotAllowed t k =>
    "storage type " ++ t.word ++ " is not allowed for kind " ++ k.word ++ " (allowed: "
      ++ String.intercalate ", " (k.allowedStorage.map (·.word)) ++ ")"
  | lengthWithoutVarchar => "length only applies to VARCHAR columns"
  | precisionWithoutNumeric => "precision and scale only apply to NUMERIC/DECIMAL columns"
  | scaleWithoutPrecision => "scale requires precision"
  | scaleExceedsPrecision => "scale cannot exceed precision"
  | ruleNotApplicable r k => "validation rule '" ++ r.word ++ "' does not apply to " ++ k.word
  | lengthsCrossed => "min_length is greater than max_length"
  | boundsCrossed => "minimum is greater than maximum"
  | badPattern t => "invalid pattern (" ++ t ++ ")"
  | noOptions => "single_choice requires at least one option"
  | repeatedOptions => "options contain duplicates"
  | optionTooLong n => "an option is longer than the column length " ++ toString n
  | nothingToStore => "optional field is NOT NULL but declares no default"
  | defaultOfOtherKind v k => "default " ++ v ++ " does not match kind " ++ k.word
  | defaultNotOption v => "default " ++ v ++ " is not one of the options"
  | defaultNotDate v => "default " ++ v ++ " is not an ISO date"
  | defaultNotTimestamp v => "default " ++ v ++ " is not an ISO timestamp"
  | defaultOutsideColumn v => "default " ++ v ++ " does not fit the column range"
  | defaultTooLong n => "default is longer than the column length " ++ toString n

def DescriptorProblem.message : DescriptorProblem → String
  | malformed p =>
    (if p.place.isEmpty then "descriptor" else p.placeText) ++ ": " ++ p.cause.message
  | badName role n =>
    role.text ++ " '" ++ n ++ "' must contain only letters, digits and underscore"
  | longName role n =>
    role.text ++ " '" ++ n ++ "' is longer than " ++ toString maxIdentifierLength ++ " characters"
  | repeatedField n count => "field '" ++ n ++ "' is declared " ++ toString count ++ " times"
  | reservedName n => "field '" ++ n ++ "' collides with an engine-owned column"
  | ofField n p => "field '" ++ n ++ "': " ++ p.message

/-! ## Names -/

def isIdentifierStart (c : Char) : Bool := c.isAlpha || c = '_'
def isIdentifierChar (c : Char) : Bool := c.isAlphanum || c = '_'

/-- Letters, digits and underscores of ASCII, the first no digit; one line break may end the
name. -/
def isIdentifier (name : String) : Bool :=
  match name.toList with
  | [] => false
  | c :: rest =>
    let body := if rest.getLast? = some '\n' then rest.dropLast else rest
    isIdentifierStart c && body.all isIdentifierChar

def nameProblems (role : NameRole) (name : String) : List DescriptorProblem :=
  if ¬ isIdentifier name then [.badName role name]
  else if maxIdentifierLength < name.length then [.longName role name]
  else []

/-! ## Fields -/

def storageProblems (f : Field) : List FieldProblem :=
  let s := f.storage
  let type := f.storageType
  (if f.kind.allowedStorage.contains type then [] else [.storageNotAllowed type f.kind])
    ++ (if s.length.isSome ∧ type ≠ .varchar then [.lengthWithoutVarchar] else [])
    ++ (if (s.precision.isSome ∨ s.scale.isSome) ∧ ¬ type.hasPrecision then
          [.precisionWithoutNumeric]
        else [])
    ++ (if s.scale.isSome ∧ s.precision.isNone then [.scaleWithoutPrecision] else [])
    ++ (match s.scale, s.precision with
        | some scale, some precision => if precision < scale then [.scaleExceedsPrecision] else []
        | _, _ => [])

def boundProblems (r : Rules) : List FieldProblem :=
  (match r.minLength, r.maxLength with
    | some low, some high => if high < low then [.lengthsCrossed] else []
    | _, _ => [])
    ++ (match r.minimum, r.maximum with
        | some low, some high => if high.less low then [.boundsCrossed] else []
        | _, _ => [])

/-- The fault of a pattern text, if it has one; a limit of the reader is an error of its own. -/
def patternProblems (r : Rules) : Except Pattern.Flaw (List FieldProblem) :=
  match r.pattern with
  | none => .ok []
  | some text =>
    match Pattern.compile text with
    | .ok _ => .ok []
    | .error (.fault what position) => .ok [.badPattern (Pattern.faultText text what position)]
    | .error flaw => .error flaw

def optionProblems (f : Field) : List FieldProblem :=
  if f.kind ≠ .singleChoice then []
  else
    let options := f.rules.options
    (if options.isEmpty then [.noOptions] else [])
      ++ (if options.eraseDups.length ≠ options.length then [.repeatedOptions] else [])
      ++ (match f.varcharLength? with
          | some n => if options.any (n < ·.length) then [.optionTooLong n] else []
          | none => [])

/-- Whether a default has the form that its kind asks for. -/
def defaultMatches (kind : FieldKind) (d : Default) : Bool :=
  match kind, d with
  | .boolean, .bool _ => true
  | .boolean, _ => false
  | .integer, .int _ => true
  | .integer, _ => false
  | .decimal, .int _ | .decimal, .float _ => true
  | .decimal, _ => false
  | _, .text _ => true
  | _, _ => false

/-- The first problem of a default. -/
def defaultProblems (f : Field) (d : Default) : List FieldProblem :=
  let shown := d.toValue.literal
  let text? : Option String := match d with
    | .text s => some s
    | _ => none
  let tooLong : List FieldProblem := match f.varcharLength?, text? with
    | some n, some s => if n < s.length then [.defaultTooLong n] else []
    | _, _ => []
  if ¬ defaultMatches f.kind d then [.defaultOfOtherKind shown f.kind]
  else
    match f.kind, d with
    | .singleChoice, .text s =>
      if f.rules.options.contains s then tooLong else [.defaultNotOption shown]
    | .date, .text s => if (Iso.date? s).isSome then tooLong else [.defaultNotDate shown]
    | .timestamp, .text s =>
      if (Iso.timestamp? s).isSome then tooLong else [.defaultNotTimestamp shown]
    | .integer, .int n =>
      match f.integerRange? with
      | some (low, high) =>
        if low ≤ n ∧ n ≤ high then tooLong else [.defaultOutsideColumn shown]
      | none => tooLong
    | _, _ => tooLong

def fieldProblems (f : Field) : Except Pattern.Flaw (List DescriptorProblem) := do
  let patterns ← patternProblems f.rules
  let rules := f.rules.declared.filter fun name => !f.kind.applicableRules.contains name
  let own := storageProblems f ++ rules.map (.ruleNotApplicable · f.kind) ++ boundProblems f.rules
    ++ patterns ++ optionProblems f
    ++ (if ¬ f.required ∧ ¬ f.isNullable ∧ ¬ f.hasDefault then [.nothingToStore] else [])
    ++ (match f.storage.default with
        | some d => defaultProblems f d
        | none => [])
  return nameProblems .field f.name
    ++ (if implicitColumns.contains f.name then [.reservedName f.name] else [])
    ++ own.map (.ofField f.name)

/-! ## Descriptors -/

/-- Names that occur more than once, in order of their first occurrence. -/
def repeatedFields (names : List String) : List DescriptorProblem :=
  names.eraseDups.filterMap fun n =>
    let count := names.count n
    if 1 < count then some (.repeatedField n count) else none

def Descriptor.problems (d : Descriptor) : Except Pattern.Flaw (List DescriptorProblem) := do
  let fields ← d.fields.mapM fieldProblems
  return nameProblems .entity d.name ++ repeatedFields d.fieldNames ++ fields.flatten

/-- Nothing in the descriptor is a problem. -/
def Descriptor.Accepted (d : Descriptor) : Prop := d.problems = .ok []

end EntityStore
