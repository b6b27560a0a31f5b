import EntityStore.Proofs.DayNumber
import EntityStore.Proofs.Given
import EntityStore.Proofs.Made

/-! # Operations that write

What creating, changing and removing a record do to the table of an entity, and what they answer.
An operation that fails leaves the rows as they were.
-/
namespace EntityStore

open Database

/-! ## Tables in a database -/

namespace Database

/-- The table with other rows. -/
def Table.withRows (tbl : Table) (rows : List Row) : Table := { tbl with rows := rows }

theorem table?_putTable {db : Database} {name : String} {tbl : Table}
    (h : db.table? name = some tbl) (rows : List Row) :
    (db.putTable (tbl.withRows rows)).table? name = some (tbl.withRows rows) := by
  rw [table?] at h
  have hname := List.find?_some h
  have hp : ((fun u : Table => sameName u.name name) ∘ fun u : Table =>
      if sameName u.name tbl.name then tbl.withRows rows else u) =
      fun u : Table => sameName u.name name := by
    funext u
    simp only [Function.comp_apply]
    split
    · rename_i hu
      rw [sameName_trans hu hname]
      exact hname
    · rfl
  change (db.tables.map fun u : Table =>
    if sameName u.name tbl.name then tbl.withRows rows else u).find? _ = _
  rw [List.find?_map, hp, h]
  simp

theorem findTable_eq {db : Database} {name : String} {t : Table} (h : db.table? name = some t) :
    db.findTable name = .ok t := by
  simp [findTable, h]

theorem findTable_ok {db : Database} {name : String} {t : Table} (h : db.findTable name = .ok t) :
    db.table? name = some t := by
  unfold findTable at h
  split at h
  · cases h
    assumption
  · cases h

end Database

/-! ## Statements on one table -/

/-- A row is added for the given values, and told as a record. -/
structure Inserts (t : TableSchema) (tbl : Table) (given : Record) (stamp : String)
    (record : Record) : Prop where
  cells : ∃ cells, t.cells given = .ok cells
  admitted : tbl.constraintFault? tbl.rows (t.newRow stamp given) = none
  record : t.record ((t.newRow stamp given).map Table.reported) = .ok record

/-- The row of an id takes the given values, and is told as a record. -/
structure Revises (t : TableSchema) (tbl : Table) (id : String) (old : Row) (given : Record)
    (record : Record) : Prop where
  cells : ∃ cells, t.cells given = .ok cells
  admitted : tbl.constraintFault? (tbl.rows.filter fun row => !tbl.bears id row)
    (t.revisedRow given old) = none
  record : t.record ((t.revisedRow given old).map Table.reported) = .ok record

/-- A table was made as its schema asks. -/
def TableSchema.Makes (t : TableSchema) (tbl : Table) : Prop := tbl.schema = t.made ∧ t.Distinct

namespace Store

open EntityStore.Action

section Statements

variable {t : TableSchema} {tbl : Table} {db after : Database} {given record : Record}

theorem insertRecord_ok (ht : db.table? t.denotedName = some tbl) (hm : t.Makes tbl)
    {stamp : String} (h : insertRecord t given stamp db = .ok (after, record)) :
    Inserts t tbl given stamp record ∧
      after = db.putTable (tbl.withRows (tbl.rows ++ [t.newRow stamp given])) := by
  cases hc : t.cells given with
  | error fault =>
    simp only [insertRecord, hc] at h
    cases h
  | ok cells =>
    rw [insertRecord_eq (findTable_eq ht) hm.1 hm.2 hc] at h
    split at h
    · cases h
    · rename_i hk
      obtain ⟨r, hr, he⟩ := map_ok.mp h
      cases he
      exact ⟨⟨⟨cells, hc⟩, hk, hr⟩, rfl⟩

/-- A record that is stored is a row that the database took. -/
theorem insert_of_record {stamp : String}
    (h : insertRecord t given stamp db = .ok (after, record)) :
    ∃ cells row, db.insert t.denotedName cells t.denotedColumns stamp = .ok (after, row) := by
  obtain ⟨cells, -, h⟩ := bind_ok.mp h
  obtain ⟨⟨after', row⟩, hrow, h⟩ := bind_ok.mp h
  obtain ⟨_, -, h⟩ := bind_ok.mp h
  cases h
  exact ⟨cells, row, mapError_ok.mp hrow⟩

theorem update_of_record {id stamp : String} {answer : Option Record}
    (h : changeRecord t id given stamp db = .ok (after, answer)) :
    ∃ cells row?, db.update t.denotedName id cells t.denotedColumns stamp = .ok (after, row?) := by
  obtain ⟨cells, -, h⟩ := bind_ok.mp h
  obtain ⟨⟨after', row?⟩, hrow, h⟩ := bind_ok.mp h
  obtain ⟨_, -, h⟩ := bind_ok.mp h
  cases h
  exact ⟨cells, row?, mapError_ok.mp hrow⟩

theorem insertRecord_table {stamp : String}
    (h : insertRecord t given stamp db = .ok (after, record)) :
    ∃ tbl, db.table? t.denotedName = some tbl := by
  obtain ⟨cells, row, hrow⟩ := insert_of_record h
  obtain ⟨tbl, hf, -⟩ := bind_ok.mp hrow
  exact ⟨tbl, findTable_ok hf⟩

theorem changeRecord_table {id stamp : String} {answer : Option Record}
    (h : changeRecord t id given stamp db = .ok (after, answer)) :
    ∃ tbl, db.table? t.denotedName = some tbl := by
  obtain ⟨cells, row?, hrow⟩ := update_of_record h
  obtain ⟨tbl, hf, -⟩ := bind_ok.mp hrow
  exact ⟨tbl, findTable_ok hf⟩

theorem changeRecord_ok (ht : db.table? t.denotedName = some tbl) (hm : t.Makes tbl)
    (hw : ∀ row ∈ tbl.rows, row.length = t.columns.length) {id stamp : String}
    {answer : Option Record} (h : changeRecord t id given stamp db = .ok (after, answer)) :
    tbl.rowOf? (.text id) = none ∧ answer = none ∧ after = db ∨
      ∃ old record, tbl.rowOf? (.text id) = some old ∧ answer = some record ∧
        Revises t tbl id old given record ∧
        after = db.putTable (tbl.withRows (tbl.rows.map fun row =>
          (if tbl.bears id row then db.afterTrigger tbl stamp old (t.revisedRow given old)
          else row))) := by
  cases hc : t.cells given with
  | error fault =>
    simp only [changeRecord, hc] at h
    cases h
  | ok cells =>
    rw [changeRecord_eq (findTable_eq ht) hm.1 hm.2 hc hw] at h
    cases ho : tbl.rowOf? (.text id) with
    | none =>
      rw [ho] at h
      cases h
      exact .inl ⟨rfl, rfl, rfl⟩
    | some old =>
      rw [ho] at h
      simp only at h
      split at h
      · cases h
      · rename_i hk
        obtain ⟨r, hr, he⟩ := map_ok.mp h
        cases he
        exact .inr ⟨old, r, rfl, rfl, ⟨⟨cells, hc⟩, hk, hr⟩, rfl⟩

end Statements

/-! ## Stores -/

/-- The store reaches no table of the name but one that was made as the schema asks. -/
def Tabled (t : TableSchema) (s : Store) : Prop := ∀ tbl, s.table? t = some tbl → t.Makes tbl

/-- Every row of the table has a cell for every column. -/
def Fitted (t : TableSchema) (s : Store) : Prop := ∀ row ∈ s.rows t, row.length = t.columns.length

/-- What an operation does that writes no row. -/
structure Quiet (e : Registered) (s s' : Store) : Prop where
  table : Grows e.schema (s.table? e.schema) (s'.table? e.schema)
  clock : s.clock.Leads s'.clock
  made : s'.isApplied e = true → s.isApplied e = true ∨ (s'.table? e.schema).isSome = true

variable {e : Registered} {s s' : Store}

theorem Quiet.refl (e : Registered) (s : Store) : Quiet e s s := ⟨.refl _ _, .refl _, .inl⟩

theorem Quiet.trans {a b c : Store} (h : Quiet e a b) (k : Quiet e b c) : Quiet e a c := by
  refine ⟨h.table.trans k.table, h.clock.trans k.clock, ?_⟩
  intro hc
  rcases k.made hc with hb | hb
  · rcases h.made hb with ha | ha
    · exact .inl ha
    · exact .inr (k.table.isSome ha)
  · exact .inr hb

theorem Quiet.rows (h : Quiet e s s') : s'.rows e.schema = s.rows e.schema := by
  rcases h.table with ht | ⟨hn, -, ht⟩
  · rw [Store.rows, Store.rows, ht]
  · rw [Store.rows, Store.rows, ht, hn]
    rfl

theorem Quiet.tabled (h : Quiet e s s') (hs : s.Tabled e.schema) : s'.Tabled e.schema := by
  intro tbl ht
  rcases h.table with hg | ⟨-, hd, hg⟩
  · exact hs tbl (hg ▸ ht)
  · rw [hg] at ht
    cases ht
    exact ⟨rfl, hd⟩

theorem Quiet.fitted (h : Quiet e s s') (hs : s.Fitted e.schema) : s'.Fitted e.schema := by
  rw [Fitted, h.rows]
  exact hs

theorem rows_of_table {t : TableSchema} {tbl : Table} (h : s.table? t = some tbl) :
    s.rows t = tbl.rows := by
  rw [Store.rows, h]
  rfl

/-- The row that a table has for an id. -/
theorem row_of_found {tbl : Table} {k : String} {row : Row} (hs : s.Tabled e.schema)
    (ht : s.table? e.schema = some tbl) (h : tbl.rowOf? (.text k) = some row) :
    row ∈ s.rows e.schema ∧ Row.id row = .text k := by
  rw [rows_of_table ht]
  exact rowOf?_some (hs tbl ht).1 (hs tbl ht).2 h

theorem rows_after {t : TableSchema} {tbl : Table} {rows : List Row}
    (h : s.table? t = some (tbl.withRows rows)) : s.rows t = rows := rows_of_table h

theorem tabled_after {t : TableSchema} {tbl : Table} {rows : List Row} (hm : t.Makes tbl)
    (h : s.table? t = some (tbl.withRows rows)) : s.Tabled t := by
  intro other ho
  rw [h] at ho
  cases ho
  exact hm

theorem applied_after {t : TableSchema} {tbl : Table} {rows : List Row}
    (h : s.table? t = some (tbl.withRows rows)) : (s.table? t).isSome = true := by
  rw [h]
  rfl

theorem table_of_database {t : TableSchema} {db : Database} (h : s.database? = some db) :
    s.table? t = db.table? t.denotedName := by
  rw [Store.table?, h]
  rfl

theorem quiet_opened (e : Registered) (s : Store) : Quiet e s s.opened :=
  ⟨.refl _ _, .refl _, .inl⟩

/-- Putting back the database that was read changes nothing. -/
theorem quiet_stored {db : Database} (h : s.database? = some db) : Quiet e s (s.stored db) := by
  refine ⟨?_, ?_, ?_⟩
  · rw [table_of_database h, table_of_database (database?_stored h db)]
    exact .refl _ _
  · rw [clock_stored]
    exact .refl _
  · intro ha
    rw [isApplied, applied_stored] at ha
    exact .inl ha

theorem quiet_ensure {r : Except Failure TableSchema} (h : (ensure e).on s = (r, s')) :
    Quiet e s s' := by
  obtain ⟨hx, -⟩ := ensure_spec h
  exact ⟨hx.extension.table, by rw [hx.extension.clock]; exact .refl _, hx.made⟩

/-- An action on the table of an entity ends where the table cannot be made, or goes on from there. -/
theorem ensure_reaches {α : Type} {f : TableSchema → Action α} {r : Except Failure α}
    (h : (ensure e >>= f).on s = (r, s')) :
    (∃ failure, r = .error failure) ∧ Quiet e s s' ∨
      ∃ ready, (ensure e).on s = (.ok e.schema, ready) ∧ (f e.schema).on ready = (r, s') := by
  rcases he : (ensure e).on s with ⟨failure | t, ready⟩
  · rw [on_bind_error he] at h
    cases h
    exact .inl ⟨⟨failure, rfl⟩, quiet_ensure he⟩
  · obtain rfl := (ensure_spec he).2 t rfl
    rw [on_bind_ok he] at h
    exact .inr ⟨ready, rfl, h⟩

theorem ensure_cases {α : Type} {f : TableSchema → Action α} {r : Except Failure α}
    (h : (ensure e >>= f).on s = (r, s')) :
    (∃ failure, r = .error failure) ∧ Quiet e s s' ∨
      ∃ ready, Quiet e s ready ∧ Extends e.schema s ready ∧ (f e.schema).on ready = (r, s') := by
  rcases ensure_reaches h with hfailed | ⟨ready, he, h⟩
  · exact .inl hfailed
  · exact .inr ⟨ready, quiet_ensure he, (ensure_spec he).1.extension, h⟩

/-- The store with its clock moved on. -/
theorem quiet_clock {c : Clock} (h : s.clock.Leads c) : Quiet e s { s with clock := c } :=
  ⟨.refl _ _, h, .inl⟩

/-- A transaction fails and changes nothing, or puts a changed database in place. -/
theorem transaction_cases {α : Type} {r : Except Failure α} {entity operation : String}
    {run : Database → Except Failure (Database × α)}
    (h : (transaction entity operation run).on s = (r, s')) :
    (∃ f, r = .error f) ∧ s' = s.opened ∨
      ∃ db after a, s.database? = some db ∧ run db = .ok (after, a) ∧ r = .ok a ∧
        s' = s.stored after := by
  cases hd : s.database? with
  | none =>
    obtain ⟨f, hf⟩ := @transaction_unreached _ _ entity operation run hd
    rw [hf] at h
    cases h
    exact .inl ⟨⟨f, rfl⟩, rfl⟩
  | some db =>
    rw [transaction_reached hd] at h
    cases hr : run db with
    | error f =>
      rw [hr] at h
      cases h
      exact .inl ⟨⟨f, rfl⟩, rfl⟩
    | ok p =>
      rw [hr] at h
      cases h
      exact .inr ⟨db, p.1, p.2, rfl, hr, rfl, rfl⟩

theorem validValues_on (e : Registered) (mode : PayloadMode) (data : Value) (s : Store) :
    (validValues e mode data).on s = (validated e mode data, s) := on_ofExcept _ _

theorem readClock_on (s : Store) :
    readClock.on s = match s.clock.read with
      | .ok (now, later) => (.ok now, { s with clock := later })
      | .error f => (.error f, s) := by
  unfold readClock
  simp only [on_bind, on_get, on_ofExcept]
  cases s.clock.read with
  | error f => rfl
  | ok p => rfl

theorem readClock_cases {α : Type} {f : Timestamp → Action α} {r : Except Failure α}
    (h : (readClock >>= f).on s = (r, s')) :
    (∃ failure, r = .error failure) ∧ s' = s ∨ ∃ now later, s.clock.read = .ok (now, later) ∧
      (f now).on { s with clock := later } = (r, s') := by
  rw [on_bind, readClock_on] at h
  cases hr : s.clock.read with
  | error failure =>
    rw [hr] at h
    cases h
    exact .inl ⟨⟨failure, rfl⟩, rfl⟩
  | ok p =>
    rw [hr] at h
    exact .inr ⟨p.1, p.2, rfl, h⟩

theorem issueId_on (s : Store) :
    issueId.on s = (.ok s.clock.issue.1, { s with clock := s.clock.issue.2 }) := rfl

/-! ## Creating -/

/-- What a creation does that answers a record. -/
inductive Created (e : Registered) (data : Value) (s s' : Store) : Record → Prop where
  | intro {record : Record} (ready : Store) (tbl : Table) (values : FieldValues) (now : Timestamp)
    (later : Clock) (quiet : Quiet e s ready) (table : ready.table? e.schema = some tbl)
    (valid : validated e .full data = .ok values) (time : s.clock.read = .ok (now, later))
    (row : Inserts e.schema tbl (newRecord later.issue.1 now values) later.issue.2.stamp record)
    (clock : s'.clock = later.issue.2) (applied : s'.applied = ready.applied)
    (after : s'.table? e.schema = some (tbl.withRows (tbl.rows ++
      [e.schema.newRow later.issue.2.stamp (newRecord later.issue.1 now values)]))) :
    Created e data s s' record

theorem create_spec {data : Value} {r : Except Failure Record} (hs : s.Tabled e.schema)
    (h : (create e data).on s = (r, s')) :
    (∃ f, r = .error f) ∧ Quiet e s s' ∨ ∃ record, r = .ok record ∧ Created e data s s' record := by
  unfold create at h
  rcases ensure_cases h with ⟨hf, hq⟩ | ⟨ready, hq, hx, h⟩
  · exact .inl ⟨hf, hq⟩
  rcases check_cases h with ⟨hf, rfl⟩ | ⟨values, hv, h⟩
  · exact .inl ⟨hf, hq⟩
  rcases readClock_cases h with ⟨hf, rfl⟩ | ⟨now, later, hr, h⟩
  · exact .inl ⟨hf, hq⟩
  have hleads := (Clock.read_leads hr).trans (Clock.issue_leads later)
  have hquiet := hq.trans (quiet_clock hleads)
  rw [hx.clock] at hr
  rw [on_bind_ok (issueId_on _), on_bind_ok (on_get _)] at h
  rcases transaction_cases h with ⟨hf, rfl⟩ | ⟨db, after, record, hd, hrun, rfl, rfl⟩
  · exact .inl ⟨hf, hquiet.trans (quiet_opened e _)⟩
  · obtain ⟨tbl, ht⟩ := insertRecord_table hrun
    have htbl := (table_of_database hd).trans ht
    obtain ⟨hi, rfl⟩ := insertRecord_ok ht (hquiet.tabled hs tbl htbl) hrun
    refine .inr ⟨record, rfl, .intro _ tbl values now later hquiet htbl hv hr hi ?_ ?_ ?_⟩
    · rw [clock_stored]
    · rw [applied_stored]
    · rw [table_of_database (database?_stored hd _), table?_putTable ht]

/-- What an update does that answers a record. The new row may have got the time of the database. -/
inductive Updated (e : Registered) (id : String) (data : Value) (s s' : Store) : Record → Prop where
  | intro {record : Record} (ready : Store) (tbl : Table) (old kept : Row) (values : FieldValues)
    (now : Timestamp) (quiet : Quiet e s ready) (table : ready.table? e.schema = some tbl)
    (found : tbl.rowOf? (.text id) = some old) (valid : validated e .patch data = .ok values)
    (time : s.clock.read = .ok (now, ready.clock))
    (row : Revises e.schema tbl id old (changedValues now values) record)
    (trigger : ∃ db : Database, s'.database? = some (db.putTable (tbl.withRows (tbl.rows.map fun row =>
        (if tbl.bears id row then kept else row)))) ∧
      kept = db.afterTrigger tbl ready.clock.stamp old
        (e.schema.revisedRow (changedValues now values) old))
    (clock : s'.clock = ready.clock)
    (applied : ready.isApplied e = true ∧ s'.applied = ready.applied)
    (after : s'.table? e.schema = some (tbl.withRows (tbl.rows.map fun row =>
      (if tbl.bears id row then kept else row)))) :
    Updated e id data s s' record

theorem afterTrigger_cases (db : Database) (tbl : Table) (stamp : String) (old new : Row) :
    db.afterTrigger tbl stamp old new = new ∨
      tbl.cell new Table.updatedColumn = tbl.cell old Table.updatedColumn ∧
      db.afterTrigger tbl stamp old new = tbl.change new [(Table.updatedColumn, .text stamp)] := by
  unfold afterTrigger
  split
  · rename_i h
    exact .inr ⟨h.2, rfl⟩
  · exact .inl rfl

theorem update_spec {id data : Value} {r : Except Failure (Option Record)}
    (hs : s.Tabled e.schema) (hw : s.Fitted e.schema) (h : (update e id data).on s = (r, s')) :
    (∃ f, r = .error f) ∧ Quiet e s s' ∨
      r = .ok none ∧ Quiet e s s' ∧ (∀ k, id.idText? = some k →
        ∃ tbl, s'.table? e.schema = some tbl ∧ tbl.rowOf? (.text k) = none) ∨
      ∃ k record, id.idText? = some k ∧ r = .ok (some record) ∧ Updated e k data s s' record := by
  unfold update at h
  rcases ensure_reaches h with ⟨hf, hq⟩ | ⟨ready, he, h⟩
  · exact .inl ⟨hf, hq⟩
  have hq := quiet_ensure he
  obtain ⟨hx, -⟩ := ensure_spec he
  rcases check_cases h with ⟨hf, rfl⟩ | ⟨values, hv, h⟩
  · exact .inl ⟨hf, hq⟩
  cases hk : id.idText? with
  | none =>
    rw [hk] at h
    cases h
    exact .inr (.inl ⟨rfl, hq, fun k hk => by cases hk⟩)
  | some k =>
    rw [hk] at h
    rcases readClock_cases h with ⟨hf, rfl⟩ | ⟨now, later, hr, h⟩
    · exact .inl ⟨hf, hq⟩
    have hquiet := hq.trans (quiet_clock (Clock.read_leads hr))
    rw [hx.extension.clock] at hr
    rw [on_bind_ok (on_get _)] at h
    rcases transaction_cases h with ⟨hf, rfl⟩ | ⟨db, after, answer, hd, hrun, rfl, rfl⟩
    · exact .inl ⟨hf, hquiet.trans (quiet_opened e _)⟩
    · obtain ⟨tbl, ht⟩ := changeRecord_table hrun
      have htbl := (table_of_database hd).trans ht
      have hwt : ∀ row ∈ tbl.rows, row.length = e.schema.columns.length := by
        have := hquiet.fitted hw
        rwa [Fitted, rows_of_table htbl] at this
      rcases changeRecord_ok ht (hquiet.tabled hs tbl htbl) hwt hrun with
        ⟨hn, rfl, rfl⟩ | ⟨old, record, ho, rfl, hi, rfl⟩
      · refine .inr (.inl ⟨rfl, hquiet.trans (quiet_stored hd), ?_⟩)
        rintro _ ⟨⟩
        exact ⟨tbl, by rw [table_of_database (database?_stored hd _), ht], hn⟩
      · refine .inr (.inr ⟨k, record, rfl, rfl, .intro _ tbl old _ values now hquiet htbl ho hv
          hr hi ⟨db, database?_stored hd _, rfl⟩ ?_ ⟨hx.applied rfl, ?_⟩ ?_⟩)
        · rw [clock_stored]
        · rw [applied_stored]
        · rw [table_of_database (database?_stored hd _), table?_putTable ht]

/-- What a deletion does that reaches the table. -/
inductive Deleted (e : Registered) (id : String) (s s' : Store) : Bool → Prop where
  | intro (ready : Store) (tbl : Table) (quiet : Quiet e s ready)
    (table : ready.table? e.schema = some tbl) (clock : s'.clock = ready.clock)
    (applied : s'.applied = ready.applied)
    (after : s'.table? e.schema =
      some (tbl.withRows (tbl.rows.filter fun row => !tbl.bears id row))) :
    Deleted e id s s'
      (decide ((tbl.rows.filter fun row => !tbl.bears id row).length < tbl.rows.length))

theorem delete_spec {id : Value} {r : Except Failure Bool} (h : (delete e id).on s = (r, s')) :
    (∃ f, r = .error f) ∧ Quiet e s s' ∨
      r = .ok false ∧ Quiet e s s' ∧ id.idText? = none ∨
      ∃ k b, id.idText? = some k ∧ r = .ok b ∧ Deleted e k s s' b := by
  unfold delete at h
  rcases ensure_cases h with ⟨hf, hq⟩ | ⟨ready, hq, -, h⟩
  · exact .inl ⟨hf, hq⟩
  cases hk : id.idText? with
  | none =>
    rw [hk] at h
    cases h
    exact .inr (.inl ⟨rfl, hq, rfl⟩)
  | some k =>
    rw [hk] at h
    rcases transaction_cases h with ⟨hf, rfl⟩ | ⟨db, after, b, hd, hrun, rfl, rfl⟩
    · exact .inl ⟨hf, hq.trans (quiet_opened e _)⟩
    · obtain ⟨tbl, hfind, hrun⟩ := bind_ok.mp (mapError_ok.mp hrun)
      have ht := findTable_ok hfind
      have htbl := (table_of_database hd).trans ht
      injection hrun with hrun
      injection hrun with hafter hb
      subst hafter hb
      refine .inr (.inr ⟨k, _, rfl, rfl, .intro _ tbl hq htbl ?_ ?_ ?_⟩)
      · rw [clock_stored]
      · rw [applied_stored]
      · rw [table_of_database (database?_stored hd _)]
        exact table?_putTable ht _

end Store

end EntityStore
