import EntityStore.Database.Query
import EntityStore.Proofs.Traversal
import Mathlib.Data.List.Basic
import Mathlib.Data.List.Pairwise

/-! # Columns of a table by name

A table that a database holds has columns whose names differ even without case. So a name finds one
cell of a row, and a row is what its columns hold.
-/
namespace EntityStore

namespace Database

@[simp] theorem sameName_refl (a : String) : sameName a a = true := by simp [sameName]

theorem sameName_comm (a b : String) : sameName a b = sameName b a := by
  simp [sameName, eq_comm]

theorem sameName_trans {a b c : String} (h : sameName a b = true) (k : sameName b c = true) :
    sameName a c = true := by
  simp only [sameName, decide_eq_true_eq] at *
  exact h.trans k

theorem sameName_congr {a b c : String} (h : sameName b c = true) : sameName a b = sameName a c := by
  simp only [sameName, decide_eq_true_eq] at h
  simp only [sameName, h]

/-- Of things whose names are all different, two of one name are one. -/
theorem eq_of_sameName {α : Type} {name : α → String} {things : List α}
    (h : things.Pairwise fun a b => sameName (name a) (name b) = false) {a b : α}
    (ha : a ∈ things) (hb : b ∈ things) (hsame : sameName (name a) (name b) = true) : a = b := by
  by_contra hne
  have hsymm : Std.Symm fun a b : α => sameName (name a) (name b) = false :=
    ⟨fun a b hab => by rwa [sameName_comm]⟩
  have hother := h.forall ha hb hne
  simp [hsame] at hother

/-- Only a line break in a name is lost in a statement. -/
theorem denoted_eq_self {name : String} (h : '\n' ∉ name.toList) : denoted name = name := by
  unfold denoted Dialect.denoted
  split
  · rfl
  · have hf : name.toList.filter (· ≠ '\n') = name.toList := by
      rw [List.filter_eq_self]
      intro c hc
      simpa using fun hn : c = '\n' => h (hn ▸ hc)
    rw [hf, String.ofList_toList]

end Database

open Database

/-- No two columns have one name once statements have read the names. -/
def TableSchema.Distinct (s : TableSchema) : Prop :=
  s.columns.Pairwise fun a b => sameName (denoted a.name) (denoted b.name) = false

theorem columnNames_schema (d : Descriptor) :
    (TableSchema.ofDescriptor d).columnNames = d.columnNames := by
  simp [TableSchema.columnNames, TableSchema.ofDescriptor, TableSchema.implicit,
    Descriptor.columnNames, implicitColumns, Descriptor.fieldNames, Field.column]

theorem mem_columnNames_iff {d : Descriptor} {name : String} :
    name ∈ d.columnNames ↔ ∃ c ∈ (TableSchema.ofDescriptor d).columns, c.name = name := by
  rw [← columnNames_schema, TableSchema.columnNames, List.mem_map]

/-- The table as a database keeps it. -/
def TableSchema.made (s : TableSchema) : TableSchema := s.rename denoted

theorem columnFault?_cons {table : String} {earlier : List String} {c : Column}
    {rest : List Column} :
    columnFault? table true earlier (c :: rest) = none ↔
      syntaxFault? c.name = none ∧ earlier.length < maxColumns ∧
        (∀ n ∈ earlier, sameName (denoted c.name) n = false) ∧
        c.default.all isConstantDefault = true ∧
        columnFault? table true (earlier ++ [denoted c.name]) rest = none := by
  rw [columnFault?]
  cases hs : syntaxFault? c.name with
  | some fault => simp
  | none =>
    have hconst : c.default.any (! isConstantDefault ·) = ! c.default.all isConstantDefault := by
      cases c.default <;> rfl
    simp only [Bool.true_and, hconst, decide_eq_true_iff, true_and]
    by_cases hroom : maxColumns ≤ earlier.length
    · rw [if_pos hroom]
      simp [Nat.not_lt.mpr hroom]
    · rw [if_neg hroom]
      by_cases hnew : ∀ n ∈ earlier, sameName (denoted c.name) n = false
      · rw [if_neg (by simpa using hnew)]
        cases hd : c.default.all isConstantDefault with
        | false => simp
        | true => simpa [Nat.lt_of_not_le hroom] using fun _ => hnew
      · rw [if_pos (by simpa using hnew)]
        simp [hnew]

/-- The columns of a new table are without fault if each could be a column by itself, no two have one
name, and they are not too many. -/
theorem columnFault?_none_iff {table : String} {earlier : List String} {columns : List Column} :
    columnFault? table true earlier columns = none ↔
      (∀ c ∈ columns, syntaxFault? c.name = none ∧ c.default.all isConstantDefault = true ∧
        ∀ n ∈ earlier, sameName (denoted c.name) n = false) ∧
      (columns.Pairwise fun a b => sameName (denoted a.name) (denoted b.name) = false) ∧
      (columns ≠ [] → earlier.length + columns.length ≤ maxColumns) := by
  induction columns generalizing earlier with
  | nil => simp [columnFault?]
  | cons c rest ih =>
    rw [columnFault?_cons, ih]
    simp only [List.forall_mem_cons, List.pairwise_cons, List.mem_append, List.mem_singleton,
      List.length_append, List.length_cons, List.length_nil]
    constructor
    · rintro ⟨hs, hroom, hearlier, hconst, hrest, hpair, hfew⟩
      refine ⟨⟨⟨hs, hconst, hearlier⟩, ?_⟩, ⟨?_, hpair⟩, ?_⟩
      · intro d hd
        obtain ⟨hds, hdc, hdn⟩ := hrest d hd
        exact ⟨hds, hdc, fun n hn => hdn n (.inl hn)⟩
      · intro d hd
        rw [sameName_comm]
        exact (hrest d hd).2.2 _ (.inr rfl)
      · intro _
        cases rest with
        | nil => exact hroom
        | cons d rest =>
          have := hfew (List.cons_ne_nil d rest)
          omega
    · rintro ⟨⟨⟨hs, hconst, hearlier⟩, hrest⟩, ⟨hnew, hpair⟩, hfew⟩
      have hfew := hfew (List.cons_ne_nil c rest)
      refine ⟨hs, by omega, hearlier, hconst, ?_, hpair, fun _ => by omega⟩
      intro d hd
      obtain ⟨hds, hdc, hdn⟩ := hrest d hd
      refine ⟨hds, hdc, ?_⟩
      rintro n (hn | rfl)
      · exact hdn n hn
      · rw [sameName_comm]
        exact hnew d hd

namespace Database.Table

variable {s : TableSchema} {t : Table}

theorem columns_made (ht : t.schema = s.made) :
    t.columns = s.columns.map fun c => { c with name := denoted c.name } := by
  simp [Table.columns, ht, TableSchema.made, TableSchema.rename]

theorem position?_denoted (ht : t.schema = s.made) (hs : s.Distinct) {i : Nat}
    (hi : i < s.columns.length) : t.position? (denoted s.columns[i].name) = some i := by
  rw [Table.position?, columns_made ht, List.findIdx?_map, List.findIdx?_eq_some_iff_getElem]
  refine ⟨hi, by simp, ?_⟩
  intro j hj
  have := List.pairwise_iff_getElem.mp hs j i (by omega) hi hj
  simpa using this

theorem hasColumn_denoted (ht : t.schema = s.made) (hs : s.Distinct) {c : Column}
    (hc : c ∈ s.columns) : t.hasColumn (denoted c.name) = true := by
  obtain ⟨i, hi, rfl⟩ := List.mem_iff_getElem.mp hc
  simp [Table.hasColumn, position?_denoted ht hs hi]

theorem affinity_denoted (ht : t.schema = s.made) (hs : s.Distinct) {c : Column}
    (hc : c ∈ s.columns) :
    ∃ i, t.position? (denoted c.name) = some i ∧ t.affinity i = Affinity.ofType c.type := by
  obtain ⟨i, hi, rfl⟩ := List.mem_iff_getElem.mp hc
  refine ⟨i, position?_denoted ht hs hi, ?_⟩
  simp [Table.affinity, columns_made ht, hi]

/-- The cell of a column stands where the column stands. -/
theorem cell_denoted (ht : t.schema = s.made) (hs : s.Distinct) (row : Row) {i : Nat}
    (hi : i < s.columns.length) : t.cell row (denoted s.columns[i].name) = row.getD i .null := by
  simp [Table.cell, position?_denoted ht hs hi]

/-- A row that fits its table is the cells of the columns. -/
theorem map_cell (ht : t.schema = s.made) (hs : s.Distinct) {row : Row}
    (hw : row.length = s.columns.length) :
    (s.columns.map fun c => t.cell row (denoted c.name)) = row := by
  apply List.ext_getElem
  · simp [hw]
  · intro i hi hr
    have hi : i < s.columns.length := by simpa using hi
    simp [cell_denoted ht hs row hi, hr]

theorem mem_zip_iff (ht : t.schema = s.made) (hs : s.Distinct) {row : Row}
    (hw : row.length = s.columns.length) {c : Column} {cell : Cell} :
    (c, cell) ∈ s.columns.zip row ↔ c ∈ s.columns ∧ t.cell row (denoted c.name) = cell := by
  conv_lhs => rw [← map_cell ht hs hw]
  rw [zip_map_self, List.mem_map]
  constructor
  · rintro ⟨d, hd, h⟩
    cases h
    exact ⟨hd, rfl⟩
  · rintro ⟨hc, rfl⟩
    exact ⟨c, hc, rfl⟩

end Database.Table

end EntityStore
