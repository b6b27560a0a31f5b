import EntityStore.Proofs.Ledger
import EntityStore.Proofs.Recall

/-! # What a change leaves alone

A change gives the row of its id the values of a patch and the time of the call. Every other column
of the row, the defaults of fields among them, and every other row stay as they were, and the record
that is told says so.
-/
namespace EntityStore

open Database

/-! ## Records by column -/

section Records

variable {t : TableSchema} {row : Row} {r : Record}

theorem record_names (hw : row.length = t.columns.length) (h : t.record row = .ok r) :
    r.map (·.1) = t.columnNames := by
  have hnames : r.map (·.1) = (t.columns.zip row).map fun p => p.1.name := by
    rw [← List.forall₂_eq_eq_eq, List.forall₂_map_left_iff, List.forall₂_map_right_iff]
    exact (record_ok.mp h).flip.imp fun q p hq => hq.1
  have hcolumns : (t.columns.zip row).map (·.1) = t.columns := List.map_fst_zip (by omega)
  rw [hnames, TableSchema.columnNames]
  conv_rhs => rw [← hcolumns, List.map_map]
  rfl

/-- A record tells under the name of a column what its cell is read as. -/
theorem record_lookup (hn : t.columnNames.Nodup) (hw : row.length = t.columns.length)
    (h : t.record row = .ok r) {c : Column} {cell : Cell} (hc : (c, cell) ∈ t.columns.zip row) :
    ∃ x, r.lookup c.name = some x ∧ readCell c.type cell = .ok x := by
  obtain ⟨q, hq, hname, hread⟩ := forall₂_mem (record_ok.mp h) hc
  refine ⟨q.2, lookup_of_mem ?_ ?_, hread⟩
  · rw [record_names hw h]
    exact hn
  · rw [← hname]
    exact hq

theorem exists_cell (hw : row.length = t.columns.length) {c : Column} (hc : c ∈ t.columns) :
    ∃ cell, (c, cell) ∈ t.columns.zip row := by
  rw [← @List.map_fst_zip _ _ t.columns row (by omega)] at hc
  obtain ⟨p, hp, rfl⟩ := List.mem_map.mp hc
  exact ⟨p.2, hp⟩

theorem revised_mem_zip {given : Record} {old : Row} {c : Column} {cell : Cell}
    (h : (c, cell) ∈ t.columns.zip old) :
    (c, c.revised given cell) ∈ t.columns.zip (t.revisedRow given old) := by
  rw [TableSchema.revisedRow, zip_map_zip]
  exact List.mem_map.mpr ⟨(c, cell), h, rfl⟩

end Records

/-! ## Cells that are told as they are kept -/

theorem Descriptor.Source.settled {d : Descriptor} {c : Column} {cell : Cell}
    (h : d.Source c cell) : c.Settled cell := by
  cases h with
  | id k => exact ⟨.text k, rfl⟩
  | moment name _ t =>
    rw [← Column.stored_timestamp (c := ⟨name, .timestamp, false, some .now⟩) rfl t]
    exact Column.settled_stored _ _
  | stamp clock => exact ⟨.text clock.stamp, (apply_numeric_text (numberOfText?_stamp clock)).symm⟩
  | empty f => exact Column.settled_null _
  | value f _ x _ cell => exact ⟨cell, rfl⟩

/-- A cell is told at once as the value that is read later, in the same form unless it is a number
that its column rounds. -/
theorem Descriptor.Source.told {d : Descriptor} (hd : d.Accepted) {c : Column} {cell : Cell}
    {x y : Value} (h : d.Source c cell) (hx : readCell c.type cell = .ok x)
    (hy : readCell c.type (Table.reported cell) = .ok y) :
    Value.Same x y ∧ (isBinary c.type = false → x = y) := by
  obtain ⟨given, hgiven⟩ := h.settled
  obtain ⟨z, hz, hsame⟩ := read_reported hgiven hx
  rw [hy] at hz
  cases hz
  refine ⟨hsame, fun hb => ?_⟩
  have hkept : Table.reported cell = cell := by
    cases h with
    | id k => rfl
    | moment name _ t =>
      obtain ⟨s, hs, -⟩ := timestamp?_timestampCell t
      rw [hs]
      rfl
    | stamp clock => rfl
    | empty f => rfl
    | value f hf x hbrought cell hbound =>
      obtain ⟨happly, htold, -⟩ :=
        settled_of_takes (hbrought.takes (hd.sound hf) hbound) hbound hb
      rw [happly, htold]
  rw [hkept, hx] at hy
  exact Except.ok.inj hy

namespace Store

variable {e : Registered} {s s' : Store}

/-! ## The clock of a run -/

theorem Effect.leads {call : Call} {r : Except Failure Answer} (h : Effect e s s' call r) :
    s.clock.Leads s'.clock := by
  cases h with
  | failed call f hq => exact hq.clock
  | unchanged call answer hq _ => exact hq.clock
  | created hrow =>
    obtain ⟨_, _, _, _, later, _, _, _, htime, _, hclock, -, -⟩ := hrow
    rw [hclock]
    exact (Clock.read_leads htime).trans (Clock.issue_leads later)
  | updated _ hrow =>
    obtain ⟨_, _, _, _, _, _, _, _, _, _, htime, _, _, hclock, -, -⟩ := hrow
    rw [hclock]
    exact Clock.read_leads htime
  | deleted _ hrow =>
    obtain ⟨_, _, hq, _, hclock, -, -⟩ := hrow
    rw [hclock]
    exact hq.clock

/-- After any run on a new table, and whenever it is looked at, a store keeps what runs keep, and its
clock was only moved on. -/
theorem Fresh.reached {s₀ : Store} (hd : e.descriptor.Accepted) (hf : Fresh e s₀)
    (steps : List Step) (pause : ℕ) :
    Kept e ((EntityStore.run e steps s₀).2.waited pause) ∧
      s₀.clock.Leads ((EntityStore.run e steps s₀).2.waited pause).clock := by
  have hrun : Kept e (EntityStore.run e steps s₀).2 ∧
      s₀.clock.Leads (EntityStore.run e steps s₀).2.clock := by
    refine @run_induction e (fun s => Kept e s ∧ s₀.clock.Leads s.clock) ?_ s₀
      ⟨hf.kept, .refl _⟩ steps
    rintro s ⟨hk, hleads⟩ step
    have hq := quiet_waited e s step.pause
    have hw := hk.of_quiet hq
    have heffect := @perform_effect _ _ _ step.call _ hw.tabled hw.fitted rfl
    exact ⟨(kept_lasting hd).effect hw heffect, (hleads.trans hq.clock).trans heffect.leads⟩
  have hq := quiet_waited e (EntityStore.run e steps s₀).2 pause
  exact ⟨hrun.1.of_quiet hq, hrun.2.trans hq.clock⟩

/-- A row is known by its id. -/
theorem Kept.row_unique (h : Kept e s) {row other : Row} (hr : row ∈ s.rows e.schema)
    (ho : other ∈ s.rows e.schema) (hid : Row.id row = Row.id other) : row = other :=
  List.inj_on_of_nodup_map h.distinct hr ho hid

end Store

/-! ## What is told of a changed row -/

section Told

open Store

variable {e : Registered} {tbl : Table} {old : Row} {id : String} {data : Value} {values : FieldValues}
  {now : Timestamp} {r told : Record} {c : Column} {f : Field}

theorem Revises.lookup {given : Record} (hd : e.descriptor.Accepted)
    (hw : old.length = e.schema.columns.length) (hr : e.schema.record old = .ok r)
    (h : Revises e.schema tbl id old given told) (hc : c ∈ e.schema.columns) :
    ∃ cell x y, (c, cell) ∈ e.schema.columns.zip old ∧ r.lookup c.name = some x ∧
      readCell c.type cell = .ok x ∧ told.lookup c.name = some y ∧
      readCell c.type (Table.reported (c.revised given cell)) = .ok y := by
  have hw' : ((e.schema.revisedRow given old).map Table.reported).length =
      e.schema.columns.length := by
    rw [List.length_map, TableSchema.length_revisedRow given hw]
  obtain ⟨cell, hcell⟩ := exists_cell hw hc
  have hnew : (c, Table.reported (c.revised given cell)) ∈
      e.schema.columns.zip ((e.schema.revisedRow given old).map Table.reported) := by
    rw [List.zip_map_right]
    exact List.mem_map_of_mem (revised_mem_zip hcell)
  obtain ⟨x, hx, hread⟩ := record_lookup hd.schema_distinct hw hr hcell
  obtain ⟨y, hy, htold⟩ := record_lookup hd.schema_distinct hw' h.record hnew
  exact ⟨cell, x, y, hcell, hx, hread, hy, htold⟩

/-- A column that a change is not given is told as it was. -/
theorem Revises.rest {given : Record} (hd : e.descriptor.Accepted)
    (hw : old.length = e.schema.columns.length) (ho : e.descriptor.Sourced old)
    (hr : e.schema.record old = .ok r) (h : Revises e.schema tbl id old given told)
    (hc : c ∈ e.schema.columns) (hnone : given.lookup c.name = none) :
    ∃ x y, r.lookup c.name = some x ∧ told.lookup c.name = some y ∧ Value.Same x y ∧
      (isBinary c.type = false → x = y) := by
  obtain ⟨cell, x, y, hcell, hx, hread, hy, htold⟩ := h.lookup hd hw hr hc
  rw [Column.revised_none hnone] at htold
  obtain ⟨hsame, heq⟩ := (ho _ hcell).told hd hread htold
  exact ⟨x, y, hx, hy, hsame, heq⟩

/-- A value that a change is given is told as it was given, unless it is a number that its column
rounds. -/
theorem Revises.given (hd : e.descriptor.Accepted) (hw : old.length = e.schema.columns.length)
    (hr : e.schema.record old = .ok r) (hv : validated e .patch data = .ok values)
    (h : Revises e.schema tbl id old (changedValues now values) told)
    (hf : f ∈ e.descriptor.fields) {x : Value} (hx : values.lookup f.name = some x) :
    ∃ y, told.lookup f.name = some y ∧ (Value.Same y x ↔ f.column.type.Keeps x) ∧
      (isBinary f.column.type = false ∨ x = .null → y = x) := by
  obtain ⟨cell, z, y, hcell, -, -, hy, htold⟩ := h.lookup hd hw hr (field_column hf)
  have hl : (changedValues now values).lookup f.column.name = some x :=
    (lookup_changedValues (Field.column_ne hd hf (by decide))).trans hx
  obtain ⟨cells, hcells⟩ := h.cells
  obtain ⟨bound, hb, -⟩ := (laid_of_cells hcells).value f.column (field_column hf) x hl
  have htakes := (brings_of_validated hd hv hf hx).takes (hd.sound hf) hb
  rw [Column.revised_some hl, Column.stored_of_bind hb] at htold
  obtain ⟨w, hw, hsame⟩ := read_back htakes hb
  rw [htold] at hw
  cases hw
  refine ⟨y, hy, hsame, ?_⟩
  rintro (hbin | rfl)
  · obtain ⟨happly, hkept, hread⟩ := settled_of_takes htakes hb hbin
    rw [happly, hkept, hread] at htold
    exact (Except.ok.inj htold).symm
  · rw [← Column.stored_of_bind hb, Column.stored_null] at htold
    exact (Except.ok.inj htold).symm

theorem Revises.updated (hd : e.descriptor.Accepted) (hw : old.length = e.schema.columns.length)
    (hr : e.schema.record old = .ok r) (hutc : now.offset = some 0)
    (h : Revises e.schema tbl id old (changedValues now values) told) :
    told.lookup "updated_at" = some (.timestamp now) := by
  have hc : (⟨"updated_at", .timestamp, false, some .now⟩ : Column) ∈ e.schema.columns :=
    List.mem_append_left _ (by simp [TableSchema.implicit])
  obtain ⟨cell, x, y, -, -, -, hy, htold⟩ := h.lookup hd hw hr hc
  have hl : (changedValues now values).lookup "updated_at" = some (.timestamp now) := rfl
  rw [Column.revised_some hl, @Column.stored_of_bind _ _ (timestampCell now) rfl] at htold
  rw [hy, ← Except.ok.inj ((read_timestampCell hutc).symm.trans htold)]

end Told

namespace Store

variable {e : Registered} {s s' : Store}

/-- A change that answers a record has changed the row of its id. -/
theorem updated_of_told {k : String} {id data : Value} {told : Record} (hkept : Kept e s)
    (hk : id.idText? = some k) (h : (update e id data).on s = (.ok (some told), s')) :
    Updated e k data s s' told := by
  rcases update_spec hkept.tabled hkept.fitted h with
    ⟨⟨f, hf⟩, -⟩ | ⟨hnone, -⟩ | ⟨k', record, hk', hrecord, hupdated⟩
  · cases hf
  · cases hnone
  · cases hrecord
    rw [hk] at hk'
    cases hk'
    exact hupdated

theorem told_of_isSome {id data : Value} (h : ((update e id data).on s).1.toOption.join.isSome = true) :
    ∃ told s', (update e id data).on s = (.ok (some told), s') := by
  rcases hu : (update e id data).on s with ⟨f | _ | told, s'⟩
  · rw [hu] at h
    cases h
  · rw [hu] at h
    cases h
  · exact ⟨told, s', rfl⟩

end Store

end EntityStore
