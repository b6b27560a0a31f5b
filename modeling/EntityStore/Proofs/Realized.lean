import EntityStore.Proofs.Answering
import EntityStore.Proofs.Payloads
import EntityStore.Proofs.Statements

/-! # What acceptance leaves open

The check of a descriptor foresees much of what its validator or its table could stumble over, but
not all. What it leaves open is listed here, and nothing else stands between an accepted descriptor
and its table.
-/
namespace EntityStore

open Database

/-! ## Names in statements -/

section Validators

variable {f : Field} {d : Descriptor}

end Validators

namespace Descriptor

/-! ## Descriptors -/

variable {d : Descriptor}

/-- Every index is over a column of the table. -/
theorem indexed_columns (d : Descriptor) : ∀ i ∈ (TableSchema.ofDescriptor d).indexes,
    ∃ c ∈ (TableSchema.ofDescriptor d).columns, c.name = i.column := by
  intro i hi
  obtain ⟨f, hf, rfl⟩ := List.mem_map.mp hi
  refine ⟨f.column, ?_, rfl⟩
  exact List.mem_append_right _ (List.mem_map_of_mem (List.mem_of_mem_filter hf))

/-- An entity with a price, which is one unless it is given. -/
def priced : Descriptor :=
  { name := "item", fields := [
    { name := "price", kind := .decimal, rules := { minimum := some (.int 0) },
      storage := { default := some (.int 1), index := true } }] }

end Descriptor

end EntityStore
