import EntityStore.Validation.Rule

/-!
# Payloads

A payload is a mapping from field names to values. A full payload supplies every mandatory field,
and absent fields take their defaults; a patch holds only what is to change. Every violation is
reported: those of the fields in the order of the descriptor, then the keys that name no field.
-/

namespace EntityStore

inductive PayloadMode where
  | full
  | patch
  deriving DecidableEq, Repr

/-- Values by field name, in the order of the descriptor. -/
abbrev FieldValues := List (String × Value)

/-- A payload that passed, or its violations. -/
abbrev Checked := Except (List Violation) FieldValues

/-- A descriptor with its defaults in stored form. -/
structure Validator where
  descriptor : Descriptor
  defaults : FieldValues

namespace Validator

/-- A default that its own rules refuse is kept as it is. -/
def storedDefault (f : Field) (d : Default) : Except Escape Value :=
  match Rule.value f d.toValue with
  | .ok v => .ok v
  | .error (.refused _) => .ok d.toValue
  | .error (.escaped e) => .error e

def defaultsOf (d : Descriptor) : Except Escape FieldValues :=
  (d.fields.filterMapM fun f =>
    match f.storage.default with
    | none => .ok none
    | some v => (storedDefault f v).map fun stored => some (f.name, stored))

def ofDescriptor (d : Descriptor) : Except Escape Validator :=
  (defaultsOf d).map fun defaults => ⟨d, defaults⟩

/-- What a payload holds for a field: nothing, a stored value, or the cause of a refusal. -/
inductive Entry where
  | absent
  | stored (v : Value)
  | refused (cause : Refusal)

def entry (mode : PayloadMode) (entries : List (String × Value)) (f : Field) :
    Except Escape Entry :=
  match Value.entry? entries f.name with
  | none => .ok (if mode = .full ∧ f.isMandatory then .refused .missing else .absent)
  | some v =>
    match Rule.value f v with
    | .ok stored => .ok (.stored stored)
    | .error (.refused cause) => .ok (.refused cause)
    | .error (.escaped e) => .error e

/-- Why a key that names no field is refused. -/
def strayCause (key : String) : Refusal :=
  if implicitColumns.contains key then .readOnly else .unknownField

def strays (d : Descriptor) (entries : List (String × Value)) : List Violation :=
  (entries.filter fun (k, _) => !d.fieldNames.contains k).map fun (k, _) => ⟨k, strayCause k⟩

/-- The value kept for a field: the one supplied, else in a full payload the default. -/
def keep (defaults : FieldValues) (mode : PayloadMode) (f : Field) :
    Entry → Option (String × Value)
  | .stored v => some (f.name, v)
  | _ => if mode = .full then (defaults.lookup f.name).map fun v => (f.name, v) else none

def violation? (f : Field) : Entry → Option Violation
  | .refused cause => some ⟨f.name, cause⟩
  | _ => none

def checkEntries (v : Validator) (mode : PayloadMode) (entries : List (String × Value)) :
    Except Escape Checked := do
  let found ← v.descriptor.fields.mapM fun f => (entry mode entries f).map fun e => (f, e)
  let violations := found.filterMap (fun (f, e) => violation? f e) ++ strays v.descriptor entries
  return if violations.isEmpty then
      .ok (found.filterMap fun (f, e) => keep v.defaults mode f e)
    else .error violations

/-- The name under which what is no mapping is reported. -/
def inputPlace : String := "_input"

def modelName (d : Descriptor) (mode : PayloadMode) : String :=
  d.name ++ match mode with
    | .full => "Input"
    | .patch => "Patch"

def check (v : Validator) (mode : PayloadMode) (data : Value) : Except Escape Checked :=
  match data with
  | .mapping entries => v.checkEntries mode entries
  | _ => .ok (.error [⟨inputPlace, .notMapping (modelName v.descriptor mode)⟩])

/-- The stored values of a payload, or the failure that reports its violations. -/
def require (v : Validator) (mode : PayloadMode) (data : Value) : Except Failure FieldValues :=
  match v.check mode data with
  | .error e => .error e.failure
  | .ok (.error violations) => .error (.validation v.descriptor.name violations)
  | .ok (.ok values) => .ok values

end Validator

end EntityStore
