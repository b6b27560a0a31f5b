import EntityStore.Entity.Descriptor

/-!
# Dumping descriptors

A descriptor written out in full, as the mapping that loading reads back: every attribute is there,
in one fixed order, and words stand for kinds and column types.
-/

namespace EntityStore

namespace Dump

def orNull {α : Type} (write : α → Value) : Option α → Value
  | none => .null
  | some a => write a

def natural (n : Nat) : Value := .int n

/-- A predicate is written by its name. -/
def refinement (r : Refinement) : Value :=
  .mapping [("check", .text r.predicate.name), ("message", .text r.message)]

def rules (r : Rules) : Value :=
  .mapping [("min_length", orNull natural r.minLength), ("max_length", orNull natural r.maxLength),
    ("pattern", orNull .text r.pattern), ("format", orNull (fun f => .text f.word) r.format),
    ("integer_only", .bool r.integerOnly), ("positive", .bool r.positive),
    ("minimum", orNull Bound.toValue r.minimum), ("maximum", orNull Bound.toValue r.maximum),
    ("options", .list (r.options.map .text)), ("refine", .list (r.refine.map refinement))]

def storage (s : Storage) : Value :=
  .mapping [("type", orNull (fun t => .text t.word) s.type), ("length", orNull natural s.length),
    ("precision", orNull natural s.precision), ("scale", orNull natural s.scale),
    ("nullable", orNull .bool s.nullable), ("unique", .bool s.unique), ("index", .bool s.index),
    ("default", orNull Default.toValue s.default)]

def field (f : Field) : Value :=
  .mapping [("name", .text f.name), ("kind", .text f.kind.word), ("required", .bool f.required),
    ("validation", rules f.rules), ("storage", storage f.storage), ("label", orNull .text f.label),
    ("description", orNull .text f.description), ("placeholder", orNull .text f.placeholder)]

end Dump

def Descriptor.dump (d : Descriptor) : Value :=
  .mapping [("name", .text d.name), ("fields", .list (d.fields.map Dump.field)),
    ("title", Dump.orNull .text d.title), ("description", Dump.orNull .text d.description)]

end EntityStore
