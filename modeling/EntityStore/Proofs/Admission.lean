import EntityStore.Proofs.Calls
import EntityStore.Proofs.StoredRows

/-! # Validation admits what storage accepts

A payload that passes is stored, unless the new row would share its id or a unique value with
another row; then the failure names the column. Nothing else can go wrong on a table that its
descriptor made, and no two rows ever share a key.
-/
namespace EntityStore

open Database

namespace Store

/-! ## Clashes -/

/-- A column in which a row with an id and given values would share a key with another row. -/
inductive Clash (e : Registered) (others : List Row) (id : String) (values : FieldValues) :
    String → Prop where
  | id (row : Row) (other : row ∈ others) (same : Row.id row = .text id) :
    Clash e others id values "id"
  | field (f : Field) (x : Value) (row : Row) (cell : Cell) (declared : f ∈ e.descriptor.fields)
    (unique : f.storage.unique = true) (given : values.lookup f.name = some x) (filled : x ≠ .null)
    (other : row ∈ others) (held : (f.column, cell) ∈ e.schema.columns.zip row)
    (same : cell.equals (f.column.stored x) = true) : Clash e others id values f.name

/-- Two rows share no key. -/
structure Apart (e : Registered) (a b : Row) : Prop where
  id : Row.id a ≠ Row.id b
  field : ∀ f ∈ e.descriptor.fields, f.storage.unique = true → ∀ c d,
    (f.column, c) ∈ e.schema.columns.zip a → (f.column, d) ∈ e.schema.columns.zip b →
    c.equals d = false

theorem Apart.symm {e : Registered} {a b : Row} (h : Apart e a b) : Apart e b a := by
  refine ⟨h.id.symm, ?_⟩
  intro f hf hu c d hc hd
  rw [Cell.equals_comm]
  exact h.field f hf hu d c hd hc

section Rows

variable {e : Registered} {tbl : Table} {others : List Row} {row new : Row} {id : String}
  {values : FieldValues}

/-- The cell of a field, by the name of the field. -/
theorem cell_field (hd : e.descriptor.Tame) (hm : e.schema.Makes tbl)
    (hw : row.length = e.schema.columns.length) {f : Field} (hf : f ∈ e.descriptor.fields)
    {cell : Cell} : (f.column, cell) ∈ e.schema.columns.zip row ↔ tbl.cell row f.name = cell := by
  rw [Table.mem_zip_iff hm.1 hm.2 hw, show f.column.name = f.name from rfl,
    denoted_word (hd.fields f hf)]
  exact and_iff_right (field_column hf)

/-- Rows that differ in every key of the table share none. -/
theorem apart_of_keys (hd : e.descriptor.Tame) (hm : e.schema.Makes tbl)
    (hw : row.length = e.schema.columns.length) (hn : new.length = e.schema.columns.length)
    (hid : Row.id new = .text id)
    (h : ∀ column ∈ tbl.keyColumns, (tbl.cell row column).equals (tbl.cell new column) = false) :
    Apart e row new := by
  constructor
  · have hk := h "id" ((mem_keyColumns hd hm.1).mpr (.inl rfl))
    change (tbl.cell row Table.idColumn).equals (tbl.cell new Table.idColumn) = false at hk
    rw [cell_id hm.1 hm.2, cell_id hm.1 hm.2, hid, Cell.equals_text] at hk
    rw [hid]
    exact of_decide_eq_false hk
  · intro f hf hu c d hc hd'
    rw [← (cell_field hd hm hw hf).mp hc, ← (cell_field hd hm hn hf).mp hd']
    exact h f.name ((mem_keyColumns hd hm.1).mpr (.inr ⟨f, hf, hu, rfl⟩))

/-- What a row for some values holds in the unique fields: the given values, or nothing that another
row holds. -/
structure Written (e : Registered) (others : List Row) (id : String) (values : FieldValues)
    (new : Row) : Prop where
  length : new.length = e.schema.columns.length
  id : Row.id new = .text id
  given : ∀ f ∈ e.descriptor.fields, ∀ x, values.lookup f.name = some x →
    (f.column, f.column.stored x) ∈ e.schema.columns.zip new
  absent : ∀ f ∈ e.descriptor.fields, f.storage.unique = true → values.lookup f.name = none →
    ∀ row ∈ others, ∀ c d, (f.column, c) ∈ e.schema.columns.zip row →
      (f.column, d) ∈ e.schema.columns.zip new → c.equals d = false

end Rows

/-! ## What is answered -/

/-- What an operation answers for a payload that was checked: it tells the violations, or a clash, or
a record. -/
structure Admission (e : Registered) (others : List Row) (id : String)
    (outcome : Except (List Violation) FieldValues) (answer : Except Failure Record) : Prop where
  refused : ∀ violations, answer = .error (.validation e.descriptor.name violations) ↔
    outcome = .error violations
  repeated : ∀ values, outcome = .ok values →
    ((∃ field detail, answer = .error (.uniqueViolation e.descriptor.name field detail)) ↔
      ∃ column, Clash e others id values column)
  named : ∀ values field detail, outcome = .ok values →
    answer = .error (.uniqueViolation e.descriptor.name field detail) →
      ∃ column, field = some column ∧ Clash e others id values column
  admitted : ∀ values, outcome = .ok values → (∀ column, ¬ Clash e others id values column) →
    ∃ record, answer = .ok record
  told : (∃ violations, answer = .error (.validation e.descriptor.name violations)) ∨
    (∃ field detail, answer = .error (.uniqueViolation e.descriptor.name field detail)) ∨
    ∃ record, answer = .ok record

section Answers

variable {e : Registered} {tbl : Table} {others : List Row} {new : Row} {id : String}
  {values : FieldValues}

end Answers

/-! ## The rows of a new record and of a changed one -/

section Written

variable {e : Registered} {tbl : Table} {data : Value} {values : FieldValues} {now : Timestamp}

theorem written_newRow (hd : e.descriptor.Tame) (hv : validated e .full data = .ok values)
    (others : List Row) (id stamp : String) : Written e others id values
      (e.schema.newRow stamp (newRecord id now values)) := by
  have hl : ∀ f ∈ e.descriptor.fields, (newRecord id now values).lookup f.column.name =
      values.lookup f.name := fun f hf => lookup_newRecord (hd.accepted.sound hf).notImplicit
  refine ⟨TableSchema.length_newRow .., id_newRow, ?_, ?_⟩
  · intro f hf x hx
    rw [mem_zip_newRow, Column.filled_some ((hl f hf).trans hx)]
    exact ⟨field_column hf, rfl⟩
  · intro f hf _ hx row _ c d _ hdm
    rw [mem_zip_newRow, Column.filled_none ((hl f hf).trans hx)] at hdm
    have hdef := (absent_full hd hv hf hx).2
    simp only [Table.omitted, Field.column, hdef, Option.map_none] at hdm
    rw [hdm.2, Cell.equals_null]

end Written

/-! ## What every run preserves -/

/-- The table was made by its descriptor, every cell is accepted by its column, and no two rows share
a key. -/
structure Guarded (e : Registered) (s : Store) : Prop where
  tabled : s.Tabled e.schema
  fitted : s.Fitted e.schema
  applied : s.isApplied e = true → (s.table? e.schema).isSome = true
  accepted : ∀ row ∈ s.rows e.schema, e.schema.Accepts row
  apart : (s.rows e.schema).Pairwise (Apart e)

variable {e : Registered} {s s' : Store}

theorem Fresh.guarded (h : Fresh e s) : Guarded e s := by
  refine ⟨h.tabled, h.fitted, ?_, ?_, ?_⟩
  · intro ha
    rw [h.applied] at ha
    cases ha
  · rw [h.rows]
    simp
  · rw [h.rows]
    exact .nil

theorem Guarded.of_quiet (h : Guarded e s) (hq : Quiet e s s') : Guarded e s' := by
  refine ⟨hq.tabled h.tabled, hq.fitted h.fitted, ?_, ?_, ?_⟩
  · intro ha
    rcases hq.made ha with ha | ht
    · exact hq.table.isSome (h.applied ha)
    · exact ht
  · rw [hq.rows]
    exact h.accepted
  · rw [hq.rows]
    exact h.apart

theorem Guarded.of_created (hd : e.descriptor.Tame) (h : Guarded e s) {data : Value}
    {record : Record} (hc : Created e data s s' record) : Guarded e s' := by
  obtain ⟨ready, tbl, values, now, later, hq, htbl, hv, -, hrow, -, -, hafter⟩ := hc
  have hg := h.of_quiet hq
  have hm := hg.tabled tbl htbl
  have hrows := rows_of_table htbl
  have hnew := rows_after hafter
  have hw := @written_newRow e data values now hd hv tbl.rows later.issue.1 later.issue.2.stamp
  have hmem : ∀ row ∈ s'.rows e.schema, row ∈ ready.rows e.schema ∨
      row = e.schema.newRow later.issue.2.stamp (newRecord later.issue.1 now values) := by
    intro row hr
    rw [hnew] at hr
    rw [hrows]
    exact (List.mem_append.mp hr).imp_right List.mem_singleton.mp
  refine ⟨tabled_after hm hafter, ?_, fun _ => applied_after hafter, ?_, ?_⟩
  · intro row hr
    rcases hmem row hr with hr | rfl
    · exact hg.fitted row hr
    · exact hw.length
  · intro row hr
    rcases hmem row hr with hr | rfl
    · exact hg.accepted row hr
    · exact accepts_newRow hd hv _ _ _
  · rw [hnew, List.pairwise_append]
    refine ⟨hrows ▸ hg.apart, List.pairwise_singleton _ _, ?_⟩
    intro row hr new hn
    rw [List.mem_singleton.mp hn]
    refine apart_of_keys hd hm (hg.fitted row (hrows ▸ hr)) hw.length hw.id ?_
    intro column hk
    exact (Table.constraintFault?_none.mp hrow.admitted).2 column hk row hr

/-- The trigger leaves the keys of a row alone. -/
theorem apart_touched {tbl : Table} {row other : Row} {clock : Clock} (hd : e.descriptor.Tame)
    (hm : e.schema.Makes tbl) (hw : row.length = e.schema.columns.length) (h : Apart e other row) :
    Apart e other (tbl.change row [(Table.updatedColumn, .text clock.stamp)]) := by
  refine ⟨by rw [id_touched hm.1 hm.2 hw]; exact h.id, ?_⟩
  intro f hf hu c d hc hdm
  rcases mem_zip_touched hm.1 hm.2 hdm with ⟨hdm, -⟩ | heq
  · exact h.field f hf hu c d hc hdm
  · injection heq with heq
    have hn : f.name = "updated_at" := by
      rw [show f.name = f.column.name from rfl, heq]
    exact absurd (by rw [hn]; decide) (hd.accepted.sound hf).notImplicit

/-- Rows stay apart where one that is apart from the others takes the place of that with its id. -/
theorem apart_replaced {tbl : Table} {rows : List Row} {new : Row} {id : String}
    (hm : e.schema.Makes tbl) (h : rows.Pairwise (Apart e))
    (hn : ∀ row ∈ rows, tbl.bears id row = false → Apart e row new) :
    (rows.map fun row => if tbl.bears id row then new else row).Pairwise (Apart e) := by
  rw [List.pairwise_map]
  refine h.imp_of_mem ?_
  intro a b ha hb hab
  cases ha' : tbl.bears id a with
  | true =>
    have hb' : tbl.bears id b = false := by
      rw [bears_eq hm.1 hm.2] at ha' ⊢
      exact decide_eq_false fun hid => hab.id ((of_decide_eq_true ha').trans hid.symm)
    simp only [hb', if_true, Bool.false_eq_true, if_false]
    exact (hn b hb hb').symm
  | false =>
    cases hb' : tbl.bears id b with
    | true =>
      simp only [if_true, Bool.false_eq_true, if_false]
      exact hn a ha ha'
    | false =>
      simp only [Bool.false_eq_true, if_false]
      exact hab

theorem Guarded.of_updated (hd : e.descriptor.Tame) (h : Guarded e s) {id : String} {data : Value}
    {record : Record} (hc : Updated e id data s s' record) : Guarded e s' := by
  obtain ⟨ready, tbl, old, new, values, now, hq, htbl, hfound, hv, -, hrow, ⟨db, -, hnew⟩, -, -,
    hafter⟩ := hc
  have hg := h.of_quiet hq
  have hm := hg.tabled tbl htbl
  have hrows := rows_of_table htbl
  have hchanged := rows_after hafter
  obtain ⟨hold, hoid⟩ := row_of_found hg.tabled htbl hfound
  have hlen := hg.fitted old hold
  have hrid : Row.id (e.schema.revisedRow (changedValues now values) old) = .text id :=
    (id_revisedRow hlen (lookup_implicit hd.accepted hv (by decide))).trans hoid
  have hrlen := TableSchema.length_revisedRow (changedValues now values) hlen
  have hracc := accepts_revisedRow (storable_changedValues hd hv now) (hg.accepted old hold)
  have hrapart : ∀ row ∈ ready.rows e.schema, tbl.bears id row = false →
      Apart e row (e.schema.revisedRow (changedValues now values) old) := by
    intro row hr hb
    refine apart_of_keys hd hm (hg.fitted row hr) hrlen hrid ?_
    intro column hk
    refine (Table.constraintFault?_none.mp hrow.admitted).2 column hk row ?_
    rw [List.mem_filter, hb, ← hrows]
    exact ⟨hr, rfl⟩
  -- what holds of the row as it was written holds of it after the trigger
  obtain ⟨hnlen, hnacc, hnapart⟩ : new.length = e.schema.columns.length ∧
      e.schema.Accepts new ∧
        ∀ row ∈ ready.rows e.schema, tbl.bears id row = false → Apart e row new := by
    rcases afterTrigger_cases db tbl ready.clock.stamp old
      (e.schema.revisedRow (changedValues now values) old) with hn | ⟨-, hn⟩
    · rw [hnew, hn]
      exact ⟨hrlen, hracc, hrapart⟩
    · rw [hnew, hn]
      exact ⟨length_touched hm.1 hrlen _, accepts_touched hm.1 hm.2 hracc,
        fun row hr hb => apart_touched hd hm hrlen (hrapart row hr hb)⟩
  have hmem : ∀ row ∈ s'.rows e.schema, row ∈ ready.rows e.schema ∨ row = new := by
    intro row hr
    rw [hchanged] at hr
    obtain ⟨row', hr', rfl⟩ := List.mem_map.mp hr
    split
    · exact .inr rfl
    · exact .inl (hrows ▸ hr')
  refine ⟨tabled_after hm hafter, ?_, fun _ => applied_after hafter, ?_, ?_⟩
  · intro row hr
    rcases hmem row hr with hr | rfl
    · exact hg.fitted row hr
    · exact hnlen
  · intro row hr
    rcases hmem row hr with hr | rfl
    · exact hg.accepted row hr
    · exact hnacc
  · rw [hchanged, ← hrows]
    exact apart_replaced hm hg.apart hnapart

theorem Guarded.of_deleted (h : Guarded e s) {id : String} {wasThere : Bool}
    (hc : Deleted e id s s' wasThere) : Guarded e s' := by
  obtain ⟨ready, tbl, hq, htbl, -, -, hafter⟩ := hc
  have hg := h.of_quiet hq
  have hrows := rows_of_table htbl
  have hleft := rows_after hafter
  have hmem : ∀ row ∈ s'.rows e.schema, row ∈ ready.rows e.schema := by
    intro row hr
    rw [hleft] at hr
    exact hrows ▸ List.mem_of_mem_filter hr
  refine ⟨tabled_after (hg.tabled tbl htbl) hafter, ?_, fun _ => applied_after hafter, ?_, ?_⟩
  · exact fun row hr => hg.fitted row (hmem row hr)
  · exact fun row hr => hg.accepted row (hmem row hr)
  · rw [hleft]
    exact (hrows ▸ hg.apart).sublist List.filter_sublist

/-- Validation admits what a store accepts: creations and changes end in violations, in a clash or in
a record as the check of their payload says, and no two rows share a key. -/
structure Admits (e : Registered) (s : Store) : Prop where
  create : ∀ {v data outcome t ready now later}, Validator.ofDescriptor e.descriptor = .ok v →
    v.check .full data = .ok outcome → (ensure e).on s = (.ok t, ready) →
    s.clock.read = .ok (now, later) →
    Admission e (s.rows e.schema) later.issue.1 outcome ((create e data).on s).1
  update : ∀ {v id k data outcome t ready now later}, Validator.ofDescriptor e.descriptor = .ok v →
    v.check .patch data = .ok outcome → (ensure e).on s = (.ok t, ready) →
    s.clock.read = .ok (now, later) → id.idText? = some k →
    (∃ row ∈ s.rows e.schema, Row.id row = .text k) →
    ∃ answer, ((update e id data).on s).1 = answer.map some ∧
      Admission e ((s.rows e.schema).filter fun row => decide (Row.id row ≠ .text k)) k outcome answer
  apart : (s.rows e.schema).Pairwise (Apart e)

/-- Where the table can be made, it is there afterwards. -/
theorem Guarded.ready (h : Guarded e s) {t : TableSchema} {ready : Store}
    (he : (ensure e).on s = (.ok t, ready)) : Guarded e ready ∧
      ready.rows e.schema = s.rows e.schema ∧ ∃ tbl, ready.table? e.schema = some tbl := by
  have hg := h.of_quiet (quiet_ensure he)
  refine ⟨hg, (quiet_ensure he).rows, ?_⟩
  exact Option.isSome_iff_exists.mp (hg.applied ((ensure_spec he).1.applied rfl))

section Outcomes

variable {v : Validator} {data : Value} {outcome : Except (List Violation) FieldValues}
  {t : TableSchema} {ready : Store} {now : Timestamp} {later : Clock}

end Outcomes

/-- An entity whose code no two records share. -/
def coded : Registered :=
  ⟨0, { name := "t", fields := [{ name := "code", kind := .shortText, storage := { unique := true } }] }⟩

end Store

end EntityStore
