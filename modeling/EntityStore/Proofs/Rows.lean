import EntityStore.Proofs.Columns
import EntityStore.Proofs.Traversal
import EntityStore.Store.Records

/-! # Rows that statements write

A column that is given a value keeps it in its own form; every other column takes its default in a
new row, and stays as it was in an old one.
-/
namespace EntityStore

open Database

/-- The table that an entity asks for. -/
abbrev Registered.schema (e : Registered) : TableSchema := .ofDescriptor e.descriptor

/-- The cell in which a column keeps a value. -/
def Column.stored (c : Column) (v : Value) : Cell :=
  match bind c.type v with
  | .ok cell => (Affinity.ofType c.type).apply cell
  | .error _ => .null

theorem Column.stored_of_bind {c : Column} {v : Value} {cell : Cell}
    (h : bind c.type v = .ok cell) : c.stored v = (Affinity.ofType c.type).apply cell := by
  simp [stored, h]

@[simp] theorem Column.stored_null (c : Column) : c.stored .null = .null := by
  have hb : bind c.type .null = .ok .null := by cases c.type <;> rfl
  rw [stored_of_bind hb]
  cases Affinity.ofType c.type <;> rfl

theorem TableSchema.Distinct.eq_of_sameName {s : TableSchema} (hs : s.Distinct) {c d : Column}
    (hc : c ∈ s.columns) (hd : d ∈ s.columns)
    (h : sameName (denoted c.name) (denoted d.name) = true) : c = d :=
  Database.eq_of_sameName hs hc hd h

/-! ## Cells of a column -/

namespace Column

/-- What a column of a new row holds: the value it is given, or its default. -/
def filled (c : Column) (stamp : String) (given : Record) : Cell :=
  match given.lookup c.name with
  | some v => c.stored v
  | none => Table.omitted stamp c

/-- What a column of a changed row holds: the value it is given, or what it held. -/
def revised (c : Column) (given : Record) (old : Cell) : Cell :=
  match given.lookup c.name with
  | some v => c.stored v
  | none => old

section Given

variable {c : Column} {given : Record} {v : Value}

theorem filled_some (h : given.lookup c.name = some v) (stamp : String) :
    c.filled stamp given = c.stored v := by rw [filled, h]

theorem filled_none (h : given.lookup c.name = none) (stamp : String) :
    c.filled stamp given = Table.omitted stamp c := by rw [filled, h]

theorem revised_some (h : given.lookup c.name = some v) (old : Cell) :
    c.revised given old = c.stored v := by rw [revised, h]

theorem revised_none (h : given.lookup c.name = none) (old : Cell) :
    c.revised given old = old := by rw [revised, h]

end Given

end Column

namespace TableSchema

/-- The row of a new record. -/
def newRow (s : TableSchema) (stamp : String) (given : Record) : Row :=
  s.columns.map fun c => c.filled stamp given

/-- A row with given values in place of old ones. -/
def revisedRow (s : TableSchema) (given : Record) (old : Row) : Row :=
  (s.columns.zip old).map fun p => p.1.revised given p.2

@[simp] theorem length_newRow (s : TableSchema) (stamp : String) (given : Record) :
    (s.newRow stamp given).length = s.columns.length := by simp [newRow]

theorem length_revisedRow {s : TableSchema} {old : Row} (given : Record)
    (h : old.length = s.columns.length) :
    (s.revisedRow given old).length = s.columns.length := by simp [revisedRow, h]

end TableSchema

theorem mem_zip_newRow {s : TableSchema} {stamp : String} {given : Record} {p : Column × Cell} :
    p ∈ s.columns.zip (s.newRow stamp given) ↔ p.1 ∈ s.columns ∧ p.2 = p.1.filled stamp given := by
  rw [TableSchema.newRow, zip_map_self, List.mem_map]
  constructor
  · rintro ⟨c, hc, rfl⟩
    exact ⟨hc, rfl⟩
  · rintro ⟨hc, he⟩
    exact ⟨p.1, hc, by rw [← he]⟩

theorem mem_zip_revisedRow {s : TableSchema} {given : Record} {old : Row} {p : Column × Cell}
    (h : p ∈ s.columns.zip (s.revisedRow given old)) :
    ∃ cell, (p.1, cell) ∈ s.columns.zip old ∧ p.2 = p.1.revised given cell := by
  rw [TableSchema.revisedRow, zip_map_zip] at h
  obtain ⟨⟨c, cell⟩, hc, rfl⟩ := List.mem_map.mp h
  exact ⟨cell, hc, rfl⟩

/-- What holds of the cells that are given, and of those that are put where nothing is given, holds of
a new row. -/
theorem forall_newRow {s : TableSchema} {stamp : String} {given : Record} {P : Column × Cell → Prop}
    (hgiven : ∀ c ∈ s.columns, ∀ v, given.lookup c.name = some v → P (c, c.stored v))
    (homitted : ∀ c ∈ s.columns, given.lookup c.name = none → P (c, Table.omitted stamp c)) :
    ∀ p ∈ s.columns.zip (s.newRow stamp given), P p := by
  rintro ⟨c, cell⟩ hp
  obtain ⟨hc, hcell⟩ := mem_zip_newRow.mp hp
  obtain rfl : cell = c.filled stamp given := hcell
  cases hl : given.lookup c.name with
  | some v =>
    rw [Column.filled_some hl]
    exact hgiven c hc v hl
  | none =>
    rw [Column.filled_none hl]
    exact homitted c hc hl

/-- What holds of the cells that are given, and of those that a row has, holds of the revised row. -/
theorem forall_revisedRow {s : TableSchema} {given : Record} {old : Row} {P : Column × Cell → Prop}
    (hgiven : ∀ c ∈ s.columns, ∀ v, given.lookup c.name = some v → P (c, c.stored v))
    (hold : ∀ p ∈ s.columns.zip old, P p) : ∀ p ∈ s.columns.zip (s.revisedRow given old), P p := by
  rintro ⟨c, cell⟩ hp
  obtain ⟨before, hm, hcell⟩ := mem_zip_revisedRow hp
  obtain rfl : cell = c.revised given before := hcell
  cases hl : given.lookup c.name with
  | some v =>
    rw [Column.revised_some hl]
    exact hgiven c (List.of_mem_zip hm).1 v hl
  | none =>
    rw [Column.revised_none hl]
    exact hold _ hm

/-- A record names every column, and tells what its cell is read as. -/
theorem record_ok {s : TableSchema} {row : Row} {r : Record} :
    s.record row = .ok r ↔
      List.Forall₂ (fun p q => q.1 = p.1.name ∧ readCell p.1.type p.2 = .ok q.2)
        (s.columns.zip row) r := by
  unfold TableSchema.record
  rw [mapM_ok_iff]
  constructor
  · refine fun h => h.imp ?_
    rintro ⟨c, cell⟩ ⟨n, v⟩ hq
    cases hr : readCell c.type cell with
    | ok w =>
      simp only [hr] at hq
      cases hq
      exact ⟨rfl, rfl⟩
    | error fault =>
      simp only [hr] at hq
      cases hq
  · refine fun h => h.imp ?_
    rintro ⟨c, cell⟩ ⟨n, v⟩ ⟨hn, hv⟩
    change n = c.name at hn
    simp only [hv, hn]

theorem record_map {s : TableSchema} {g : Column → Cell} {r : Record}
    (h : s.record (s.columns.map g) = .ok r) :
    r.map (·.1) = s.columnNames ∧
      ∀ c ∈ s.columns, ∃ v, (c.name, v) ∈ r ∧ readCell c.type (g c) = .ok v := by
  rw [record_ok, zip_map_self, List.forall₂_map_left_iff] at h
  constructor
  · rw [TableSchema.columnNames, ← List.forall₂_eq_eq_eq, List.forall₂_map_left_iff,
      List.forall₂_map_right_iff]
    exact h.flip.imp fun q c hq => hq.1
  · intro c hc
    obtain ⟨q, hq, hn, hv⟩ := forall₂_mem h hc
    exact ⟨q.2, by rw [← hn]; exact hq, hv⟩

/-! ## Cells of given values -/

/-- The cells are those of the given values, each under the name of its column. -/
structure Laid (s : TableSchema) (given : Record) (cells : Database.Cells) : Prop where
  column : ∀ p ∈ cells, ∃ c ∈ s.columns, p.1 = denoted c.name ∧
    ∃ v, given.lookup c.name = some v ∧ bind c.type v = .ok p.2
  value : ∀ c ∈ s.columns, ∀ v, given.lookup c.name = some v →
    ∃ cell, bind c.type v = .ok cell ∧ (denoted c.name, cell) ∈ cells

section Cells

variable {s : TableSchema} {given : Record} {cells : Database.Cells}

theorem laid_of_cells (h : s.cells given = .ok cells) : Laid s given cells := by
  constructor
  · intro p hp
    obtain ⟨c, hc, hl⟩ := (filterMapM_mem h).mp hp
    refine ⟨c, hc, ?_⟩
    split at hl
    · cases hl
    · rename_i v hv
      obtain ⟨cell, hb, hp⟩ := map_ok.mp hl
      injection hp with hp
      exact ⟨by rw [← hp], v, hv, by rw [← hp]; exact hb⟩
  · intro c hc v hv
    obtain ⟨o, ho⟩ := filterMapM_ok_mem h hc
    rw [hv] at ho
    obtain ⟨cell, hb, rfl⟩ := map_ok.mp ho
    refine ⟨cell, hb, (filterMapM_mem h).mpr ⟨c, hc, ?_⟩⟩
    rw [hv]
    exact map_ok.mpr ⟨cell, hb, rfl⟩

/-- Values that their columns take can all be laid down. -/
theorem cells_of_binds (h : ∀ c ∈ s.columns, ∀ v, given.lookup c.name = some v →
    ∃ cell, bind c.type v = .ok cell) : ∃ cells, s.cells given = .ok cells := by
  cases hc : s.cells given with
  | ok cells => exact ⟨cells, rfl⟩
  | error fault =>
    obtain ⟨c, hm, he⟩ := filterMapM_error hc
    cases hl : given.lookup c.name with
    | none => simp [hl] at he
    | some v =>
      obtain ⟨cell, hb⟩ := h c hm v hl
      simp [hl, hb, Except.map] at he

theorem Laid.reverse (h : Laid s given cells) : Laid s given cells.reverse :=
  ⟨fun p hp => h.column p (List.mem_reverse.mp hp), fun c hc v hv =>
    let ⟨cell, hb, hm⟩ := h.value c hc v hv
    ⟨cell, hb, List.mem_reverse.mpr hm⟩⟩

theorem Laid.find_none (h : Laid s given cells) (hs : s.Distinct) {c : Column}
    (hc : c ∈ s.columns) (hl : given.lookup c.name = none) :
    cells.find? (fun p => sameName p.1 (denoted c.name)) = none := by
  rw [List.find?_eq_none]
  intro p hp hn
  obtain ⟨d, hd, hpd, v, hv, -⟩ := h.column p hp
  rw [hpd] at hn
  rw [hs.eq_of_sameName hd hc hn, hl] at hv
  cases hv

theorem Laid.find_some (h : Laid s given cells) (hs : s.Distinct) {c : Column}
    (hc : c ∈ s.columns) {v : Value} (hl : given.lookup c.name = some v) :
    ∃ name cell, cells.find? (fun p => sameName p.1 (denoted c.name)) =
      some (name, cell) ∧ bind c.type v = .ok cell := by
  obtain ⟨cell, hb, hm⟩ := h.value c hc v hl
  have hsome : (cells.find? fun p => sameName p.1 (denoted c.name)).isSome = true := by
    rw [List.find?_isSome]
    exact ⟨_, hm, by simp⟩
  obtain ⟨⟨name, cell'⟩, hf⟩ := Option.isSome_iff_exists.mp hsome
  refine ⟨name, cell', hf, ?_⟩
  have hn := List.find?_some hf
  obtain ⟨d, hd, hpd, w, hw, hbd⟩ := h.column _ (List.mem_of_find?_eq_some hf)
  simp only at hpd hbd hn
  rw [hpd] at hn
  rw [hs.eq_of_sameName hd hc hn] at hw hbd
  rw [hl] at hw
  cases hw
  exact hbd

end Cells

/-! ## Rows of statements -/

namespace Database.Table

variable {s : TableSchema} {t : Table} {given : Record} {cells : Database.Cells}

theorem fill_eq (ht : t.schema = s.made) (hs : s.Distinct) (hl : Laid s given cells)
    (stamp : String) : t.fill stamp cells = s.newRow stamp given := by
  rw [fill, columns_made ht, List.map_map]
  refine List.map_congr_left ?_
  intro c hc
  simp only [Function.comp_apply]
  cases hg : given.lookup c.name with
  | none =>
    rw [hl.find_none hs hc hg, c.filled_none hg]
    rfl
  | some v =>
    obtain ⟨name, cell, hf, hb⟩ := hl.find_some hs hc hg
    rw [hf, c.filled_some hg]
    exact (Column.stored_of_bind hb).symm

theorem change_eq (ht : t.schema = s.made) (hs : s.Distinct) (hl : Laid s given cells)
    (row : Row) : t.change row cells = s.revisedRow given row := by
  rw [change, columns_made ht, List.zip_map_left, List.map_map, TableSchema.revisedRow]
  refine List.map_congr_left ?_
  rintro ⟨c, old⟩ hp
  have hc := (List.of_mem_zip hp).1
  simp only [Function.comp_apply, Prod.map_apply, id]
  cases hg : given.lookup c.name with
  | none => rw [hl.reverse.find_none hs hc hg, c.revised_none hg]
  | some v =>
    obtain ⟨name, cell, hf, hb⟩ := hl.reverse.find_some hs hc hg
    rw [hf, c.revised_some hg]
    exact (Column.stored_of_bind hb).symm

theorem reportFault?_none (ht : t.schema = s.made) (hs : s.Distinct) :
    t.reportFault? s.denotedColumns = none := by
  rw [reportFault?, Option.map_eq_none_iff, List.find?_eq_none]
  intro name hn
  obtain ⟨c, hc, rfl⟩ := List.mem_map.mp hn
  simp [hasColumn_denoted ht hs hc]

/-- A row is reported as a whole. -/
theorem echo_eq (ht : t.schema = s.made) (hs : s.Distinct) {row : Row}
    (hw : row.length = s.columns.length) : t.echo row s.denotedColumns = row.map reported := by
  rw [echo, TableSchema.denotedColumns, List.map_map]
  conv_rhs => rw [← map_cell ht hs hw, List.map_map]
  refine List.map_congr_left ?_
  intro c hc
  simp [hasColumn_denoted ht hs hc]

theorem constraintFault?_none {others : List Row} {row : Row} :
    t.constraintFault? others row = none ↔ t.missing? row = none ∧
      ∀ column ∈ t.keyColumns, ∀ other ∈ others,
        (t.cell other column).equals (t.cell row column) = false := by
  unfold constraintFault?
  cases t.missing? row with
  | some c => simp
  | none => simp [repeated?, holds, List.find?_eq_none]

/-- Whether a row is the one of an id. -/
def bears (t : Table) (id : String) (row : Row) : Bool := (t.cell row idColumn).equals (.text id)

theorem given_none (ht : t.schema = s.made) (hs : s.Distinct) (hl : Laid s given cells) :
    cells.find? (fun p => !t.hasColumn p.1) = none := by
  rw [List.find?_eq_none]
  intro p hp
  obtain ⟨c, hc, hn, -⟩ := hl.column p hp
  simp [hn, hasColumn_denoted ht hs hc]

end Database.Table

namespace Store

variable {s : TableSchema} {t : Table} {db : Database} {given : Record} {cells : Database.Cells}

/-- What an insertion comes to where its table is there. -/
theorem insertRecord_eq (hf : db.findTable s.denotedName = .ok t) (ht : t.schema = s.made)
    (hs : s.Distinct) (hc : s.cells given = .ok cells) (stamp : String) :
    insertRecord s given stamp db =
      match t.constraintFault? t.rows (s.newRow stamp given) with
      | some fault => .error (fault.failure s.name "create")
      | none => (s.record ((s.newRow stamp given).map Table.reported)).map fun r =>
          (db.putTable { t with rows := t.rows ++ [s.newRow stamp given] }, r) := by
  have hl := laid_of_cells hc
  have hg := Table.given_none ht hs hl
  simp only [insertRecord, hc, Except.mapError, Database.insert, hf, ok_bind, hg,
    Table.reportFault?_none ht hs, Table.fill_eq ht hs hl]
  cases hk : t.constraintFault? t.rows (s.newRow stamp given) with
  | some fault => rfl
  | none =>
    rw [Table.echo_eq ht hs (s.length_newRow stamp given)]
    change (s.record _ >>= _) = _
    cases s.record ((s.newRow stamp given).map Table.reported) <;> rfl

/-- What a change comes to where its table is there and its rows fit the table. -/
theorem changeRecord_eq (hf : db.findTable s.denotedName = .ok t) (ht : t.schema = s.made)
    (hs : s.Distinct) (hc : s.cells given = .ok cells)
    (hw : ∀ row ∈ t.rows, row.length = s.columns.length) (id stamp : String) :
    changeRecord s id given stamp db =
      match t.rowOf? (.text id) with
      | none => .ok (db, none)
      | some old =>
        match t.constraintFault? (t.rows.filter fun row => !t.bears id row)
            (s.revisedRow given old) with
        | some fault => .error (fault.failure s.name "update")
        | none => (s.record ((s.revisedRow given old).map Table.reported)).map fun r =>
            (db.putTable { t with rows := t.rows.map fun row =>
              (if t.bears id row then db.afterTrigger t stamp old (s.revisedRow given old)
              else row) }, some r) := by
  have hl := laid_of_cells hc
  have hg := Table.given_none ht hs hl
  simp only [changeRecord, hc, Except.mapError, Database.update, hf, ok_bind, hg,
    Table.reportFault?_none ht hs]
  cases ho : t.rowOf? (.text id) with
  | none => rfl
  | some old =>
    have hold := hw old (List.mem_of_find?_eq_some ho)
    have hbears : ∀ row, (t.cell row Table.idColumn).equals (.text id) = t.bears id row :=
      fun _ => rfl
    simp only [Table.change_eq ht hs hl, hbears]
    cases hk : t.constraintFault? (t.rows.filter fun row => !t.bears id row)
        (s.revisedRow given old) with
    | some fault => rfl
    | none =>
      rw [Table.echo_eq ht hs (TableSchema.length_revisedRow given hold)]
      change (Option.some <$> s.record _ >>= _) = _
      cases s.record ((s.revisedRow given old).map Table.reported) <;> rfl

end Store

end EntityStore
