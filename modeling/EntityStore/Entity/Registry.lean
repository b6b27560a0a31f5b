import EntityStore.Entity.Load
import EntityStore.Failure

/-!
# Registered descriptors

Descriptors that were accepted are kept. Loading a descriptor that is the same as a kept one answers
the kept one, and the check is not repeated; what is derived from a descriptor is so derived once.
-/

namespace EntityStore

namespace LoadFailure

def failure : LoadFailure → Failure
  | rejected name problems => .descriptor name (problems.map (·.message))
  | patternLimit flaw =>
    match flaw with
    | .repeatTooLarge => .plain .overflow "the repetition number is too large"
    | .numberTooLong digits => .digitLimit digits
    | .conflictingFlags => .plain .badValue "ASCII and UNICODE flags are incompatible"
    | .fault what position => .plain .other (Pattern.faultText "" what position)

end LoadFailure

structure Registry where
  accepted : List Descriptor := []

/-- A descriptor and its place in the registry. -/
structure Registered where
  place : Nat
  descriptor : Descriptor

namespace Registry

def find? (r : Registry) (d : Descriptor) : Option Registered :=
  (r.accepted.zipIdx.find? fun (kept, _) => kept.same d).map fun (kept, i) => ⟨i, kept⟩

def add (r : Registry) (d : Descriptor) : Registered × Registry :=
  (⟨r.accepted.length, d⟩, ⟨r.accepted ++ [d]⟩)

/-- Reads a descriptor; one that is the same as a kept one is not checked again. -/
def load (r : Registry) (v : Value) : Except LoadFailure (Registered × Registry) :=
  match Load.descriptor v with
  | .error problems => .error (.rejected (Load.reportedName v) (problems.map .malformed))
  | .ok d =>
    match r.find? d with
    | some kept => .ok (kept, r)
    | none =>
      match d.check with
      | .ok d => .ok (r.add d)
      | .error e => .error e

end Registry

end EntityStore
