import EntityStore.Entity.Registry
import EntityStore.Schema.Statement
import EntityStore.Validation.Payload

/-!
# Kept artifacts

What was derived from a descriptor is kept: that it was accepted, its table and its validator, each in
a cache of its own. A cache answers for every descriptor that is the same as the one it kept, moves
what it answers to the front, and drops what stands last when it is full. A failure is not kept.
-/

namespace EntityStore

/-- What was derived from descriptors, each with the descriptor it came from, the last used first. -/
structure Cache (α : Type) where
  kept : List (Descriptor × α) := []

namespace Cache

variable {α : Type}

def capacity : Nat := 256

/-- What is kept for a descriptor, which moves to the front. -/
def answer? (c : Cache α) (d : Descriptor) : Option (α × Cache α) :=
  (c.kept.find? fun (k, _) => k.same d).map fun (k, a) =>
    (a, ⟨(k, a) :: c.kept.eraseP fun (k, _) => k.same d⟩)

def add (c : Cache α) (d : Descriptor) (a : α) : Cache α := ⟨((d, a) :: c.kept).take capacity⟩

end Cache

structure Artifacts where
  checked : Cache Descriptor := {}
  schemas : Cache TableSchema := {}
  validators : Cache Validator := {}

namespace Artifacts

/-- Accepts a descriptor, or answers the one that was accepted in its place. -/
def check (d : Descriptor) (kept : Artifacts) : Except Failure Descriptor × Artifacts :=
  match kept.checked.answer? d with
  | some (accepted, checked) => (.ok accepted, { kept with checked := checked })
  | none =>
    match d.check with
    | .ok accepted => (.ok accepted, { kept with checked := kept.checked.add d accepted })
    | .error e => (.error e.failure, kept)

/-- Reads a descriptor and accepts it. -/
def load (v : Value) (kept : Artifacts) : Except Failure Descriptor × Artifacts :=
  match Load.descriptor v with
  | .ok d => kept.check d
  | .error problems =>
    (.error (LoadFailure.rejected (Load.reportedName v) (problems.map .malformed)).failure, kept)

/-- The table of a descriptor. Where none is kept it is made from the descriptor itself, whichever one
was accepted in its place. -/
def schema (d : Descriptor) (kept : Artifacts) : Except Failure TableSchema × Artifacts :=
  match kept.schemas.answer? d with
  | some (t, schemas) => (.ok t, { kept with schemas := schemas })
  | none =>
    match kept.check d with
    | (.error f, kept) => (.error f, kept)
    | (.ok _, kept) =>
      let t := TableSchema.ofDescriptor d
      (.ok t, { kept with schemas := kept.schemas.add d t })

/-- The validator of a descriptor. -/
def validator (d : Descriptor) (kept : Artifacts) : Except Failure Validator × Artifacts :=
  match kept.validators.answer? d with
  | some (v, validators) => (.ok v, { kept with validators := validators })
  | none =>
    match kept.check d with
    | (.error f, kept) => (.error f, kept)
    | (.ok _, kept) =>
      match Validator.ofDescriptor d with
      | .error e => (.error e.failure, kept)
      | .ok v => (.ok v, { kept with validators := kept.validators.add d v })

end Artifacts

end EntityStore
