import EntityStore.Entity.Check
import EntityStore.Reading

/-!
# Loading descriptors

A descriptor is read from a mapping as a file holds it. Missing attributes take their defaults,
attributes without a name here are refused, and every problem is reported with its place before the
descriptor itself is checked.
-/

namespace EntityStore

namespace Load

open Reading

/-- A number in its own form; another value is read as an integer if it can be, else as a binary
number. -/
def bound (v : Value) : Gathered Bound :=
  match v with
  | .int n => .ok (.int n)
  | .float x => .ok (.float x)
  | v =>
    match Coercion.integer v, Coercion.float v with
    | .ok n, _ => .ok (.int n)
    | _, .ok x => .ok (.float x)
    | .error a, .error b => .error [⟨["int"], a⟩, ⟨["float"], b⟩]

/-- A default in its own form; another value takes the first form that can be read from it. -/
def default (v : Value) : Gathered Default :=
  match v with
  | .bool b => .ok (.bool b)
  | .int n => .ok (.int n)
  | .float x => .ok (.float x)
  | .text s => .ok (.text s)
  | v =>
    match Coercion.boolean v, Coercion.integer v, Coercion.float v, Coercion.text v with
    | .ok b, _, _, _ => .ok (.bool b)
    | _, .ok n, _, _ => .ok (.int n)
    | _, _, .ok x, _ => .ok (.float x)
    | _, _, _, .ok s => .ok (.text s)
    | .error a, .error b, .error c, .error d =>
      .error [⟨["bool"], a⟩, ⟨["int"], b⟩, ⟨["float"], c⟩, ⟨["str"], d⟩]

def predicate : Value → Gathered Predicate
  | .text name =>
    match Predicate.named? name with
    | some p => .ok p
    | none => .refuse .notCallable
  | _ => .refuse .notCallable

def refinement : Value → Gathered Refinement
  | .mapping entries =>
    Gathered.and (Gathered.and (.ok Refinement.mk) (mandatory entries "check" predicate))
      (mandatory entries "message" text)
  | _ => .refuse (.notMapping "Refinement")

def ruleKeys : List String :=
  ["min_length", "max_length", "pattern", "format", "integer_only", "positive", "minimum",
    "maximum", "options", "refine"]

def rules : Value → Gathered Rules
  | .mapping entries =>
    Gathered.and (.ok Rules.mk) (optional entries "min_length" none (nullable natural))
      |>.and (optional entries "max_length" none (nullable natural))
      |>.and (optional entries "pattern" none (nullable text))
      |>.and (optional entries "format" none
        (nullable (word (TextFormat.all.map (·.word)) TextFormat.ofWord?)))
      |>.and (optional entries "integer_only" false flag)
      |>.and (optional entries "positive" false flag)
      |>.and (optional entries "minimum" none (nullable bound))
      |>.and (optional entries "maximum" none (nullable bound))
      |>.and (optional entries "options" [] (tuple text))
      |>.and (optional entries "refine" [] (tuple refinement))
      |>.barring (undeclared ruleKeys entries)
  | _ => .refuse (.notMapping "ValidationConstraints")

def storageKeys : List String :=
  ["type", "length", "precision", "scale", "nullable", "unique", "index", "default"]

def storage : Value → Gathered Storage
  | .mapping entries =>
    Gathered.and (.ok Storage.mk) (optional entries "type" none
        (nullable (word (StorageType.all.map (·.word)) StorageType.ofWord?)))
      |>.and (optional entries "length" none (nullable positive))
      |>.and (optional entries "precision" none (nullable positive))
      |>.and (optional entries "scale" none (nullable natural))
      |>.and (optional entries "nullable" none (nullable flag))
      |>.and (optional entries "unique" false flag)
      |>.and (optional entries "index" false flag)
      |>.and (optional entries "default" none (nullable default))
      |>.barring (undeclared storageKeys entries)
  | _ => .refuse (.notMapping "StorageConstraints")

def fieldKeys : List String :=
  ["name", "kind", "required", "validation", "storage", "label", "description", "placeholder"]

def field : Value → Gathered Field
  | .mapping entries =>
    Gathered.and (.ok Field.mk) (mandatory entries "name" text)
      |>.and (mandatory entries "kind" (word (FieldKind.all.map (·.word)) FieldKind.ofWord?))
      |>.and (optional entries "required" false flag)
      |>.and (optional entries "validation" {} rules)
      |>.and (optional entries "storage" {} storage)
      |>.and (optional entries "label" none (nullable text))
      |>.and (optional entries "description" none (nullable text))
      |>.and (optional entries "placeholder" none (nullable text))
      |>.barring (undeclared fieldKeys entries)
  | _ => .refuse (.notMapping "FieldDescriptor")

def descriptorKeys : List String := ["name", "fields", "title", "description"]

def descriptor : Value → Gathered Descriptor
  | .mapping entries =>
    Gathered.and (.ok Descriptor.mk) (mandatory entries "name" text)
      |>.and (optional entries "fields" [] (tuple field))
      |>.and (optional entries "title" none (nullable text))
      |>.and (optional entries "description" none (nullable text))
      |>.barring (undeclared descriptorKeys entries)
  | _ => .refuse (.notMapping "EntityDescriptor")

/-- Values that count as no name. -/
def isBlankName : Value → Bool
  | .null => true
  | .bool b => !b
  | .int n => n = 0
  | .float (.finite _ 0 _ _) => true
  | .decimal (.finite _ 0 _) => true
  | .text s => s.isEmpty
  | .bytes bs => bs.isEmpty
  | .list items => items.isEmpty
  | .mapping entries => entries.isEmpty
  | _ => false

/-- The name by which a mapping that is no descriptor is reported. -/
def reportedName : Value → String
  | .mapping entries =>
    match Value.entry? entries "name" with
    | some v => if isBlankName v then "<unnamed>" else v.plain
    | none => "<unnamed>"
  | _ => "<unnamed>"

end Load

/-- Why a value does not load as a descriptor. -/
inductive LoadFailure where
  | rejected (name : String) (problems : List DescriptorProblem)
  | patternLimit (flaw : Pattern.Flaw)

namespace Descriptor

/-- Checks a descriptor that was read. -/
def check (d : Descriptor) : Except LoadFailure Descriptor :=
  match d.problems with
  | .error flaw => .error (.patternLimit flaw)
  | .ok [] => .ok d
  | .ok problems => .error (.rejected d.name problems)

/-- Reads and checks a descriptor. -/
def load (v : Value) : Except LoadFailure Descriptor :=
  match Load.descriptor v with
  | .error problems => .error (.rejected (Load.reportedName v) (problems.map .malformed))
  | .ok d => d.check

end Descriptor

end EntityStore
