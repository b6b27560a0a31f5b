import EntityStore.Proofs.IsoText
import EntityStore.Proofs.Payloads
import EntityStore.Proofs.Rows

/-! # What operations give to rows

A creation gives a row its id, its times and the values of a full payload; a change gives the time of
the update and the values of a partial one. Payloads never give the columns that every record has.
-/
namespace EntityStore

open Database

/-! ## Values of payloads -/

theorem Validator.require_ok {v : Validator} {mode : PayloadMode} {data : Value}
    {values : FieldValues} (h : v.require mode data = .ok values) :
    v.check mode data = .ok (.ok values) := by
  unfold require at h
  split at h
  · cases h
  · cases h
  · rename_i hc
    cases h
    exact hc

namespace Store

variable {e : Registered} {mode : PayloadMode} {data : Value} {values : FieldValues}

/-- The values of a payload that passes, or the failure that ends the operation. -/
def validated (e : Registered) (mode : PayloadMode) (data : Value) : Except Failure FieldValues := do
  let v ← (Validator.ofDescriptor e.descriptor).mapError Escape.failure
  v.require mode data

theorem validated_ok (h : validated e mode data = .ok values) :
    ∃ v, Validator.ofDescriptor e.descriptor = .ok v ∧ v.check mode data = .ok (.ok values) := by
  obtain ⟨v, hv, h⟩ := bind_ok.mp h
  exact ⟨v, mapError_ok.mp hv, Validator.require_ok h⟩

theorem lookup_implicit (hd : e.descriptor.Accepted) (h : validated e mode data = .ok values)
    {n : String} (hn : n ∈ implicitColumns) : values.lookup n = none := by
  obtain ⟨v, hv, hc⟩ := validated_ok h
  obtain ⟨entries, -, hp⟩ := Validator.check_ok hc
  cases hl : values.lookup n with
  | none => rfl
  | some x =>
    obtain ⟨f, hf, rfl, -⟩ := (hp.mem n x).mp (mem_of_lookup hl)
    rw [Validator.ofDescriptor_descriptor hv] at hf
    exact absurd hn (hd.sound hf).notImplicit

/-- A field is looked up past the columns that every record has. -/
theorem lookup_newRecord {id n : String} {now : Timestamp} (h : n ∉ implicitColumns) :
    (newRecord id now values).lookup n = values.lookup n := by
  simp only [implicitColumns, List.mem_cons, List.not_mem_nil, or_false, not_or] at h
  simp only [newRecord, List.cons_append, List.nil_append, List.lookup_cons,
    beq_eq_false_iff_ne.mpr h.1, beq_eq_false_iff_ne.mpr h.2.1, beq_eq_false_iff_ne.mpr h.2.2]

theorem lookup_changedValues {n : String} {now : Timestamp} (h : n ≠ "updated_at") :
    (changedValues now values).lookup n = values.lookup n := by
  simp only [changedValues, List.cons_append, List.nil_append, List.lookup_cons,
    beq_eq_false_iff_ne.mpr h]

end Store

/-! ## Ids and times in rows -/

/-- The columns of a table are the three that every record has, and those of the fields. -/
theorem column_cases {d : Descriptor} {c : Column} (h : c ∈ (TableSchema.ofDescriptor d).columns) :
    c = ⟨"id", .varchar TableSchema.idLength, false, none⟩ ∨
      c = ⟨"created_at", .timestamp, false, some .now⟩ ∨
      c = ⟨"updated_at", .timestamp, false, some .now⟩ ∨ ∃ f ∈ d.fields, f.column = c := by
  rcases List.mem_append.mp h with h | h
  · simp only [TableSchema.implicit, List.mem_cons, List.not_mem_nil, or_false] at h
    rcases h with h | h | h
    · exact .inl h
    · exact .inr (.inl h)
    · exact .inr (.inr (.inl h))
  · exact .inr (.inr (.inr (List.mem_map.mp h)))

theorem Descriptor.Accepted.schema_distinct {d : Descriptor} (hd : d.Accepted) :
    (TableSchema.ofDescriptor d).columnNames.Nodup := by
  rw [columnNames_schema]
  exact hd.columns_distinct

theorem field_column {d : Descriptor} {f : Field} (hf : f ∈ d.fields) :
    f.column ∈ (TableSchema.ofDescriptor d).columns :=
  List.mem_append_right _ (List.mem_map_of_mem hf)

namespace Database.Row

/-- The cell that holds the id of a row. -/
def id (row : Row) : Cell := row.getD 0 .null

/-- The cell that holds the time of the last update. -/
def updated (row : Row) : Cell := row.getD 2 .null

end Database.Row

/-- A moment is kept as its text. -/
theorem Column.stored_timestamp {c : Column} (hc : c.type = .timestamp) (t : Timestamp) :
    c.stored (.timestamp t) = timestampCell t := by
  obtain ⟨s, ht, hn⟩ := numberOfText?_timestampCell t
  have hb : Database.bind c.type (.timestamp t) = .ok (timestampCell t) := by rw [hc]; rfl
  rw [Column.stored_of_bind hb, hc, ht]
  simp [Affinity.ofType, Affinity.apply, Affinity.toNumber, hn]

@[simp] theorem Database.Cell.equals_text (c : Cell) (s : String) :
    c.equals (.text s) = decide (c = .text s) := by
  cases c <;> simp [Cell.equals, Cell.compare, Cell.isNull]

/-- A record tells the id of its row. -/
theorem record_id {d : Descriptor} {row : Row} {k : String} {r : Record}
    (h : (TableSchema.ofDescriptor d).record row = .ok r) (hid : Row.id row = .text k) :
    r.lookup "id" = some (.text k) := by
  rw [record_ok] at h
  cases row with
  | nil => cases hid
  | cons cell rest =>
    have hc : cell = .text k := hid
    subst hc
    obtain ⟨⟨n, v⟩, l, ⟨hn, hv⟩, -, rfl⟩ := List.forall₂_cons_left_iff.mp h
    cases hn
    cases hv
    rfl

section Cells

variable {d : Descriptor} {tbl : Table} (hm : tbl.schema = (TableSchema.ofDescriptor d).made)
  (hd : (TableSchema.ofDescriptor d).Distinct)

include hm hd

/-- The first column of a table holds the ids. -/
theorem cell_id (row : Row) : tbl.cell row Table.idColumn = Row.id row := by
  have hid : denoted "id" = Table.idColumn := denoted_eq_self (by decide)
  rw [← hid]
  exact @Table.cell_denoted (.ofDescriptor d) tbl hm hd row 0 (Nat.succ_pos _)

theorem cell_updated (row : Row) : tbl.cell row Table.updatedColumn = Row.updated row := by
  have hu : denoted "updated_at" = Table.updatedColumn := denoted_eq_self (by decide)
  rw [← hu]
  exact @Table.cell_denoted (.ofDescriptor d) tbl hm hd row 2
    (by simp [TableSchema.ofDescriptor, TableSchema.implicit])

theorem bears_eq (k : String) (row : Row) : tbl.bears k row = decide (Row.id row = .text k) := by
  rw [Table.bears, cell_id hm hd, Cell.equals_text]

theorem mem_zip_id {row : Row} (hw : row.length = (TableSchema.ofDescriptor d).columns.length)
    {cell : Cell} : (⟨"id", .varchar TableSchema.idLength, false, none⟩, cell) ∈
      (TableSchema.ofDescriptor d).columns.zip row ↔ Row.id row = cell := by
  have hid : denoted "id" = Table.idColumn := denoted_eq_self (by decide)
  rw [Table.mem_zip_iff hm hd hw, hid, cell_id hm hd]
  exact and_iff_right (List.mem_append_left _ (by simp [TableSchema.implicit]))

theorem mem_zip_updated {row : Row} (hw : row.length = (TableSchema.ofDescriptor d).columns.length)
    {cell : Cell} : (⟨"updated_at", .timestamp, false, some .now⟩, cell) ∈
      (TableSchema.ofDescriptor d).columns.zip row ↔ Row.updated row = cell := by
  have hu : denoted "updated_at" = Table.updatedColumn := denoted_eq_self (by decide)
  rw [Table.mem_zip_iff hm hd hw, hu, cell_updated hm hd]
  exact and_iff_right (List.mem_append_left _ (by simp [TableSchema.implicit]))

theorem rowOf?_some {k : String} {row : Row} (h : tbl.rowOf? (.text k) = some row) :
    row ∈ tbl.rows ∧ Row.id row = .text k := by
  refine ⟨List.mem_of_find?_eq_some h, ?_⟩
  have hb : tbl.bears k row = true := List.find?_some h
  rw [bears_eq hm hd] at hb
  exact of_decide_eq_true hb

theorem rowOf?_none {k : String} (h : tbl.rowOf? (.text k) = none) :
    ∀ row ∈ tbl.rows, Row.id row ≠ .text k := by
  intro row hr hid
  have hb : ¬ tbl.bears k row = true := List.find?_eq_none.mp h row hr
  rw [bears_eq hm hd] at hb
  exact hb (decide_eq_true hid)

/-- Where one row takes the place of the row with its id, all ids stay. -/
theorem id_replaced {k : String} {new : Row} (hn : Row.id new = .text k) (row : Row) :
    Row.id (if tbl.bears k row then new else row) = Row.id row := by
  split
  · rename_i hb
    rw [bears_eq hm hd] at hb
    rw [hn, of_decide_eq_true hb]
  · rfl

end Cells

section Written

open Store

variable {d : Descriptor} {id stamp : String} {now : Timestamp} {values : FieldValues} {old : Row}

theorem getD_newRow {t : TableSchema} (given : Record) {i : ℕ} (hi : i < t.columns.length) :
    (t.newRow stamp given).getD i .null = t.columns[i].filled stamp given := by
  simp only [TableSchema.newRow, List.getD_eq_getElem?_getD, List.getElem?_map,
    List.getElem?_eq_getElem hi, Option.map_some, Option.getD_some]

theorem id_newRow : Row.id ((TableSchema.ofDescriptor d).newRow stamp (newRecord id now values)) =
    .text id := by
  have hb : Database.bind (.varchar TableSchema.idLength) (.text id) = .ok (.text id) := rfl
  rw [Row.id, getD_newRow _ (Nat.succ_pos _), @Column.filled_some _ _ (.text id) rfl]
  exact Column.stored_of_bind (c := ⟨"id", .varchar TableSchema.idLength, false, none⟩) hb

theorem updated_newRow :
    Row.updated ((TableSchema.ofDescriptor d).newRow stamp (newRecord id now values)) =
      timestampCell now := by
  rw [Row.updated, getD_newRow _ (by simp [TableSchema.ofDescriptor, TableSchema.implicit]),
    @Column.filled_some _ _ (.timestamp now) rfl]
  exact Column.stored_timestamp (c := ⟨"updated_at", .timestamp, false, some .now⟩) rfl now

theorem getD_revisedRow {t : TableSchema} (given : Record) (hw : old.length = t.columns.length)
    {i : ℕ} (hi : i < t.columns.length) : (t.revisedRow given old).getD i .null =
      t.columns[i].revised given (old.getD i .null) := by
  have ho : i < old.length := hw ▸ hi
  have hz : (t.columns.zip old)[i]? = some (t.columns[i], old[i]) :=
    List.getElem?_zip_eq_some.mpr ⟨List.getElem?_eq_getElem hi, List.getElem?_eq_getElem ho⟩
  simp only [TableSchema.revisedRow, List.getD_eq_getElem?_getD, List.getElem?_map, hz,
    List.getElem?_eq_getElem ho, Option.map_some, Option.getD_some]

theorem id_revisedRow (hw : old.length = (TableSchema.ofDescriptor d).columns.length)
    (hv : values.lookup "id" = none) :
    Row.id ((TableSchema.ofDescriptor d).revisedRow (changedValues now values) old) =
      Row.id old := by
  have hl : (changedValues now values).lookup "id" = none := by
    rw [lookup_changedValues (by decide), hv]
  rw [Row.id, getD_revisedRow _ hw (Nat.succ_pos _)]
  exact Column.revised_none (c := ⟨"id", .varchar TableSchema.idLength, false, none⟩) hl _

theorem updated_revisedRow (hw : old.length = (TableSchema.ofDescriptor d).columns.length) :
    Row.updated ((TableSchema.ofDescriptor d).revisedRow (changedValues now values) old) =
      timestampCell now := by
  rw [Row.updated, getD_revisedRow _ hw (by simp [TableSchema.ofDescriptor, TableSchema.implicit]),
    @Column.revised_some _ _ (.timestamp now) rfl]
  exact Column.stored_timestamp (c := ⟨"updated_at", .timestamp, false, some .now⟩) rfl now

end Written

end EntityStore
