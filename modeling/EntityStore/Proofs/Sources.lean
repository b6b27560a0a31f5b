import EntityStore.Proofs.Calls
import EntityStore.Proofs.StoredRows

/-! # Where cells come from

Every cell of a table came there by an operation: it is an id, the time of a write, a value that a
payload brought, or nothing. This holds after any run on a new table, whatever the clock does and
whether or not the defaults of the fields pass their own rules. So every row can be read, and no two
rows have one id.
-/
namespace EntityStore

open Database

/-- A value that a payload brings to a field: one that passed the rules of the field, or a default
that they refuse and that is kept as it was declared. -/
inductive Field.Brings (f : Field) : Value → Prop where
  | passed (raw : Value) {x : Value} (passes : Rule.value f raw = .ok x) : f.Brings x
  | declared (y : Default) (default : f.storage.default = some y) (cause : Refusal)
    (refused : Rule.value f y.toValue = .error (.refused cause)) : f.Brings y.toValue

/-- How a cell came into a column of an entity. -/
inductive Descriptor.Source (d : Descriptor) : Column → Cell → Prop where
  | id (k : String) : d.Source ⟨"id", .varchar TableSchema.idLength, false, none⟩ (.text k)
  | moment (name : String) (time : name = "created_at" ∨ name = "updated_at") (t : Timestamp) :
    d.Source ⟨name, .timestamp, false, some .now⟩ (timestampCell t)
  | stamp (clock : Clock) :
    d.Source ⟨"updated_at", .timestamp, false, some .now⟩ (.text clock.stamp)
  | empty (f : Field) (member : f ∈ d.fields) : d.Source f.column .null
  | value (f : Field) (member : f ∈ d.fields) (x : Value) (brought : f.Brings x) (cell : Cell)
    (bound : Database.bind f.column.type x = .ok cell) :
    d.Source f.column ((Affinity.ofType f.column.type).apply cell)

/-! ## Cells can be read -/

/-- What is reported of a cell can be read only if the cell itself can. -/
theorem readCell_of_reported {type : ColumnType} {c : Cell} {v : Value}
    (h : readCell type (Table.reported c) = .ok v) : ∃ w, readCell type c = .ok w := by
  cases c with
  | real x =>
    rcases reported_cases x with hx | ⟨n, -, hx⟩
    · rw [hx] at h
      exact ⟨v, h⟩
    · rw [hx] at h
      cases type with
      | date => cases h
      | timestamp => cases h
      | _ => exact ⟨_, rfl⟩
  | null => exact ⟨v, h⟩
  | int n => exact ⟨v, h⟩
  | text s => exact ⟨v, h⟩

theorem Field.Brings.takes {f : Field} {x : Value} (hs : f.Sound) (h : f.Brings x) {cell : Cell}
    (hb : Database.bind f.column.type x = .ok cell) : f.column.type.Takes x := by
  cases h with
  | passed raw hr => exact Field.takes_of_value hs hr
  | declared y hy cause hr => exact Field.takes_of_default hs hy hb

theorem Descriptor.Source.readable {d : Descriptor} (hd : d.Accepted) {c : Column} {cell : Cell}
    (h : d.Source c cell) : ∃ v, readCell c.type cell = .ok v := by
  cases h with
  | id k => exact ⟨.text k, rfl⟩
  | moment name hn t =>
    obtain ⟨v, hv⟩ := (Column.accepts_timestamp
      (c := ⟨name, .timestamp, false, some .now⟩) rfl t).readable
    exact readCell_of_reported hv
  | stamp clock =>
    obtain ⟨v, hv⟩ := (Column.accepts_stamp
      (c := ⟨"updated_at", .timestamp, false, some .now⟩) rfl clock).readable
    exact readCell_of_reported hv
  | empty f hf => exact ⟨.null, by cases f.column.type <;> rfl⟩
  | value f hf x hx given hb =>
    obtain ⟨y, hy, -⟩ := read_back (hx.takes (hd.sound hf) hb) hb
    exact readCell_of_reported hy

/-- A column of a field is none of those that every record has. -/
theorem Field.column_ne {d : Descriptor} (hd : d.Accepted) {f : Field} (hf : f ∈ d.fields)
    {n : String} (hn : n ∈ implicitColumns) : f.column.name ≠ n := by
  intro he
  apply (hd.sound hf).notImplicit
  rw [show f.name = n from he]
  exact hn

theorem Descriptor.Source.id_text {d : Descriptor} (hd : d.Accepted) {c : Column} {cell : Cell}
    (h : d.Source c cell) (hc : c.name = "id") : ∃ k, cell = .text k := by
  cases h with
  | id k => exact ⟨k, rfl⟩
  | moment name hn t =>
    rcases hn with rfl | rfl <;> exact absurd hc (by decide)
  | stamp clock => exact absurd hc (by decide)
  | empty f hf => exact absurd hc (Field.column_ne hd hf (by decide))
  | value f hf x hx cell hb => exact absurd hc (Field.column_ne hd hf (by decide))

/-! ## Rows -/

/-- Every cell of a row came into its column by an operation. -/
def Descriptor.Sourced (d : Descriptor) (row : Row) : Prop :=
  ∀ p ∈ (TableSchema.ofDescriptor d).columns.zip row, d.Source p.1 p.2

theorem Descriptor.Sourced.record {d : Descriptor} (hd : d.Accepted) {row : Row}
    (h : d.Sourced row) : ∃ r, (TableSchema.ofDescriptor d).record row = .ok r := by
  cases hr : (TableSchema.ofDescriptor d).record row with
  | ok r => exact ⟨r, rfl⟩
  | error f =>
    unfold TableSchema.record at hr
    obtain ⟨⟨c, cell⟩, hp, he⟩ := mapM_error hr
    obtain ⟨v, hv⟩ := (h _ hp).readable hd
    simp only [hv] at he
    cases he

namespace Store

variable {e : Registered} {s s' : Store}

section Written

variable {mode : PayloadMode} {data : Value} {values : FieldValues}

/-- A value that a payload gives to a field is one that payloads bring. -/
theorem brings_of_validated (hd : e.descriptor.Accepted) (h : validated e mode data = .ok values)
    {f : Field} (hf : f ∈ e.descriptor.fields) {x : Value} (hx : values.lookup f.name = some x) :
    f.Brings x := by
  rcases passed_or_declared hd h hf hx with ⟨raw, hr⟩ | ⟨y, hy, rfl, cause, hr⟩
  · exact .passed raw hr
  · exact .declared y hy cause hr

/-- A field that a full payload leaves out has no default. -/
theorem no_default_of_absent (hd : e.descriptor.Accepted)
    (h : validated e .full data = .ok values) {f : Field} (hf : f ∈ e.descriptor.fields)
    (hx : values.lookup f.name = none) : f.storage.default = none := by
  obtain ⟨v, hv, hc⟩ := validated_ok h
  obtain ⟨entries, -, hp⟩ := Validator.check_ok hc
  apply hp.no_default hd hv hf
  intro x hm
  rw [hp.lookup hd hv hm] at hx
  cases hx

/-- What is laid down for a value of a field came there by the payload. -/
theorem source_of_lookup (hd : e.descriptor.Accepted) (h : validated e mode data = .ok values)
    {given : Record} {cells : Cells} (hc : e.schema.cells given = .ok cells) {f : Field}
    (hf : f ∈ e.descriptor.fields) {x : Value} (hg : given.lookup f.column.name = some x)
    (hx : values.lookup f.name = some x) : e.descriptor.Source f.column (f.column.stored x) := by
  obtain ⟨cell, hb, -⟩ := (laid_of_cells hc).value f.column (field_column hf) x hg
  rw [Column.stored_of_bind hb]
  exact .value f hf x (brings_of_validated hd h hf hx) cell hb

theorem sourced_newRow (hd : e.descriptor.Accepted) (h : validated e .full data = .ok values)
    {id stamp : String} {now : Timestamp} {cells : Cells}
    (hc : e.schema.cells (newRecord id now values) = .ok cells) :
    e.descriptor.Sourced (e.schema.newRow stamp (newRecord id now values)) := by
  have hvalue : ∀ f ∈ e.descriptor.fields,
      (newRecord id now values).lookup f.column.name = values.lookup f.name :=
    fun f hf => lookup_newRecord (hd.sound hf).notImplicit
  refine forall_newRow (fun c hm x hg => ?_) fun c hm hg => ?_
  · rcases column_cases hm with rfl | rfl | rfl | ⟨f, hf, rfl⟩
    · obtain rfl : Value.text id = x := by injection hg
      exact .id id
    · obtain rfl : Value.timestamp now = x := by injection hg
      rw [Column.stored_timestamp rfl]
      exact .moment "created_at" (.inl rfl) now
    · obtain rfl : Value.timestamp now = x := by injection hg
      rw [Column.stored_timestamp rfl]
      exact .moment "updated_at" (.inr rfl) now
    · exact source_of_lookup hd h hc hf hg ((hvalue f hf).symm.trans hg)
  · rcases column_cases hm with rfl | rfl | rfl | ⟨f, hf, rfl⟩
    · cases hg
    · cases hg
    · cases hg
    · have hdef : f.column.default = none := by
        simp [Field.column, no_default_of_absent hd h hf ((hvalue f hf).symm.trans hg)]
      rw [Table.omitted, hdef]
      exact .empty f hf

theorem sourced_revisedRow (hd : e.descriptor.Accepted) (h : validated e mode data = .ok values)
    {now : Timestamp} {cells : Cells} (hc : e.schema.cells (changedValues now values) = .ok cells)
    {old : Row} (ho : e.descriptor.Sourced old) :
    e.descriptor.Sourced (e.schema.revisedRow (changedValues now values) old) := by
  refine forall_revisedRow (fun c hm x hg => ?_) ho
  rcases column_cases hm with rfl | rfl | rfl | ⟨f, hf, rfl⟩
  · rw [lookup_changedValues (by decide), lookup_implicit hd h (by decide)] at hg
    cases hg
  · rw [lookup_changedValues (by decide), lookup_implicit hd h (by decide)] at hg
    cases hg
  · obtain rfl : Value.timestamp now = x := by injection hg
    rw [Column.stored_timestamp rfl]
    exact .moment "updated_at" (.inr rfl) now
  · have hne : f.name ≠ "updated_at" := by
      intro hn
      exact (hd.sound hf).notImplicit (by rw [hn]; decide)
    exact source_of_lookup hd h hc hf hg ((lookup_changedValues hne).symm.trans hg)

end Written

/-! ## Runs -/

/-- What every run keeps of the table of an entity. -/
structure Kept (e : Registered) (s : Store) : Prop where
  tabled : s.Tabled e.schema
  fitted : s.Fitted e.schema
  applied : s.isApplied e = true → (s.table? e.schema).isSome = true
  sourced : ∀ row ∈ s.rows e.schema, e.descriptor.Sourced row
  distinct : ((s.rows e.schema).map Row.id).Nodup
  compiled : s.rows e.schema ≠ [] → ∃ v, Validator.ofDescriptor e.descriptor = .ok v

theorem compiled_of_validated {mode : PayloadMode} {data : Value} {values : FieldValues}
    (h : validated e mode data = .ok values) : ∃ v, Validator.ofDescriptor e.descriptor = .ok v := by
  obtain ⟨v, hv, -⟩ := validated_ok h
  exact ⟨v, hv⟩

theorem Fresh.kept (h : Fresh e s) : Kept e s := by
  refine ⟨h.tabled, h.fitted, ?_, ?_, ?_, fun hne => absurd h.rows hne⟩
  · intro ha
    rw [h.applied] at ha
    cases ha
  · rw [h.rows]
    simp
  · rw [h.rows]
    exact List.nodup_nil

theorem Kept.of_quiet (h : Kept e s) (hq : Quiet e s s') : Kept e s' := by
  refine ⟨hq.tabled h.tabled, hq.fitted h.fitted, ?_, ?_, ?_, ?_⟩
  · intro ha
    rcases hq.made ha with ha | ht
    · exact hq.table.isSome (h.applied ha)
    · exact ht
  · rw [hq.rows]
    exact h.sourced
  · rw [hq.rows]
    exact h.distinct
  · rw [hq.rows]
    exact h.compiled

/-- The id of a row is a text. -/
theorem Kept.id_text (hd : e.descriptor.Accepted) (h : Kept e s) {row : Row} (hr : row ∈ s.rows e.schema) :
    ∃ k, Row.id row = .text k := by
  have hz : (⟨"id", .varchar TableSchema.idLength, false, none⟩, Row.id row) ∈
      e.schema.columns.zip row := by
    have hw := h.fitted row hr
    cases row with
    | nil => cases hw
    | cons cell rest => exact List.mem_cons_self ..
  exact (h.sourced row hr _ hz).id_text hd rfl

/-- Where a table is written to, it is enough to look at the new rows. -/
theorem Kept.of_rows {ready : Store} {tbl : Table} {rows : List Row} (h : Kept e ready)
    (hm : e.schema.Makes tbl) (hafter : s'.table? e.schema = some (tbl.withRows rows))
    (hnew : ∀ row ∈ rows, row ∈ ready.rows e.schema ∨
      row.length = e.schema.columns.length ∧ e.descriptor.Sourced row)
    (hids : (rows.map Row.id).Nodup)
    (hcompiled : rows ≠ [] → ∃ v, Validator.ofDescriptor e.descriptor = .ok v) : Kept e s' := by
  rw [← rows_after hafter] at hnew hids hcompiled
  refine ⟨tabled_after hm hafter, ?_, fun _ => applied_after hafter, ?_, hids, hcompiled⟩
  · intro row hr
    rcases hnew row hr with hr | ⟨hlen, -⟩
    · exact h.fitted row hr
    · exact hlen
  · intro row hr
    rcases hnew row hr with hr | ⟨-, hsource⟩
    · exact h.sourced row hr
    · exact hsource

theorem Kept.of_created (hd : e.descriptor.Accepted) (h : Kept e s) {data : Value}
    {record : Record} (hc : Created e data s s' record) : Kept e s' := by
  obtain ⟨ready, tbl, values, now, later, hq, htbl, hv, -, hrow, -, -, hafter⟩ := hc
  obtain ⟨cells, hcells⟩ := hrow.cells
  have hk := h.of_quiet hq
  have hm := hk.tabled tbl htbl
  have hrows := rows_of_table htbl
  have hsource := @sourced_newRow e data values hd hv _ later.issue.2.stamp _ _ hcells
  refine hk.of_rows hm hafter ?_ ?_ fun _ => compiled_of_validated hv
  · intro row hr
    rcases List.mem_append.mp hr with hr | hr
    · exact .inl (hrows ▸ hr)
    · rw [List.mem_singleton.mp hr]
      exact .inr ⟨TableSchema.length_newRow .., hsource⟩
  · rw [List.map_append, List.nodup_append']
    refine ⟨hrows ▸ hk.distinct, List.nodup_singleton _, ?_⟩
    intro c hc hn
    obtain ⟨row, hr, rfl⟩ := List.mem_map.mp hc
    have hid := List.mem_singleton.mp hn
    -- the database refuses an id that a row has
    have hfree := (Table.constraintFault?_none.mp hrow.admitted).2 Table.idColumn
      (List.mem_append_right _ (List.mem_singleton_self _)) row hr
    rw [cell_id hm.1 hm.2, cell_id hm.1 hm.2, id_newRow, Cell.equals_text] at hfree
    rw [id_newRow] at hid
    exact absurd hid (of_decide_eq_false hfree)

/-- The row that an update leaves is a row of its id, with or without the time of the database. -/
theorem changed_row {tbl : Table} {old new : Row} {id : String} {data : Value}
    {values : FieldValues} {now : Timestamp} {clock : Clock} {record : Record} {db : Database}
    (hd : e.descriptor.Accepted) (hm : e.schema.Makes tbl)
    (hlen : old.length = e.schema.columns.length) (hid : Row.id old = .text id)
    (hsource : e.descriptor.Sourced old) (hv : validated e .patch data = .ok values)
    (hrow : Revises e.schema tbl id old (changedValues now values) record)
    (htrigger : new = db.afterTrigger tbl clock.stamp old
      (e.schema.revisedRow (changedValues now values) old)) :
    new.length = e.schema.columns.length ∧ Row.id new = .text id ∧ e.descriptor.Sourced new := by
  obtain ⟨cells, hcells⟩ := hrow.cells
  have hrid : Row.id (e.schema.revisedRow (changedValues now values) old) = .text id :=
    (id_revisedRow hlen (lookup_implicit hd hv (by decide))).trans hid
  have hrlen := TableSchema.length_revisedRow (changedValues now values) hlen
  have hrsource := sourced_revisedRow hd hv hcells hsource
  subst htrigger
  rcases afterTrigger_cases db tbl clock.stamp old
    (e.schema.revisedRow (changedValues now values) old) with h | ⟨-, h⟩
  · rw [h]
    exact ⟨hrlen, hrid, hrsource⟩
  · rw [h]
    refine ⟨length_touched hm.1 hrlen _, (id_touched hm.1 hm.2 hrlen).trans hrid, ?_⟩
    intro p hp
    rcases mem_zip_touched hm.1 hm.2 hp with ⟨hp, -⟩ | rfl
    · exact hrsource p hp
    · exact .stamp _

theorem Kept.of_updated (hd : e.descriptor.Accepted) (h : Kept e s) {id : String} {data : Value}
    {record : Record} (hc : Updated e id data s s' record) : Kept e s' := by
  obtain ⟨ready, tbl, old, new, values, now, hq, htbl, hfound, hv, -, hrow, ⟨db, -, htrigger⟩, -, -,
    hafter⟩ := hc
  have hk := h.of_quiet hq
  have hm := hk.tabled tbl htbl
  have hrows := rows_of_table htbl
  obtain ⟨hold, hoid⟩ := row_of_found hk.tabled htbl hfound
  obtain ⟨hnlen, hnid, hnsource⟩ :=
    changed_row hd hm (hk.fitted old hold) hoid (hk.sourced old hold) hv hrow htrigger
  refine hk.of_rows hm hafter ?_ ?_ fun _ => compiled_of_validated hv
  · intro row hr
    obtain ⟨row', hr', rfl⟩ := List.mem_map.mp hr
    split
    · exact .inr ⟨hnlen, hnsource⟩
    · exact .inl (hrows ▸ hr')
  · have hids : ∀ row ∈ tbl.rows, Row.id (if tbl.bears id row then new else row) = Row.id row :=
      fun row _ => id_replaced hm.1 hm.2 hnid row
    rw [List.map_map]
    exact (List.map_congr_left hids).symm ▸ hrows ▸ hk.distinct

theorem Kept.of_deleted (h : Kept e s) {id : String} {wasThere : Bool}
    (hc : Deleted e id s s' wasThere) : Kept e s' := by
  obtain ⟨ready, tbl, hq, htbl, -, -, hafter⟩ := hc
  have hk := h.of_quiet hq
  have hrows := rows_of_table htbl
  have hsub : (tbl.rows.filter fun row => !tbl.bears id row).Sublist (ready.rows e.schema) := by
    rw [hrows]
    exact List.filter_sublist
  refine hk.of_rows (hk.tabled tbl htbl) hafter (fun row hr => .inl (hsub.subset hr))
    ((hsub.map Row.id).nodup hk.distinct) fun hne => hk.compiled fun hnil => ?_
  rw [hnil] at hsub
  exact hne (List.sublist_nil.mp hsub)

/-- Whatever is done for an entity, its rows stay as operations make them. -/
theorem kept_lasting (hd : e.descriptor.Accepted) : Lasting e (Kept e) where
  tabled h := h.tabled
  fitted h := h.fitted
  quiet h hq := h.of_quiet hq
  created h hrow := h.of_created hd hrow
  updated h hrow := h.of_updated hd hrow
  deleted h hrow := h.of_deleted hrow

theorem Kept.run (hd : e.descriptor.Accepted) (h : Kept e s) (steps : List Step) :
    Kept e (EntityStore.run e steps s).2 := (kept_lasting hd).run h steps

/-- Where the table can be made, it is there afterwards. -/
theorem Kept.ready (h : Kept e s) {t : TableSchema} {ready : Store}
    (he : (ensure e).on s = (.ok t, ready)) : Kept e ready ∧
      ready.rows e.schema = s.rows e.schema ∧ ∃ tbl, ready.table? e.schema = some tbl := by
  have hk := h.of_quiet (quiet_ensure he)
  refine ⟨hk, (quiet_ensure he).rows, ?_⟩
  exact Option.isSome_iff_exists.mp (hk.applied ((ensure_spec he).1.applied rfl))

end Store

end EntityStore
