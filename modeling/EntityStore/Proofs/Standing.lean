import EntityStore.Proofs.Applying
import EntityStore.Proofs.Planning

/-! # What stands in a database

What the statements of a table made stands there, whatever is made for tables whose triggers have names
of their own: applied again, the statements change nothing but the order of the triggers.
-/
namespace EntityStore

open Database

namespace Database

variable {t u : TableSchema} {db db' mid after : Database} {statement other : Statement}

/-! ## Statements that do nothing -/

/-- What was made is made no second time, whatever another statement does. -/
theorem still_effect (hs : statement.Creates) (h : db.apply statement = .ok db)
    (heffect : Effect db other after) : after.apply statement = .ok after := by
  cases heffect with
  | nothing => exact h
  | @table u absent free distinct =>
    cases hs with
    | table t =>
      refine createTable_kept h ?_
      rw [isSome_table?_append, (createTable_ok h).2]
      rfl
    | index table index =>
      obtain ⟨-, -, -, htable, hfree, hthere⟩ := createIndex_ok h
      refine createIndex_kept ?_ ?_ hthere
      · rw [isSome_table?_append, htable]
        rfl
      · -- the new table has the name of no index
        have hother : sameName (⟨u.made, []⟩ : Table).name (denoted index.name) = false := by
          by_contra hsame
          have hindex : db.index? (denoted index.name) = db.index? u.denotedName := by
            rw [Bool.not_eq_false, sameName_comm] at hsame
            simp only [index?, sameName_congr hsame]
            rfl
          rw [hindex, free] at hthere
          cases hthere
        rw [table?_append_other hother]
        exact hfree
  | index column there free absent =>
    cases hs with
    | table t => exact createTable_kept h (createTable_ok h).2
    | index table index =>
      obtain ⟨-, -, -, htable, hfree, hthere⟩ := createIndex_ok h
      refine createIndex_kept htable hfree ?_
      rw [isSome_index?_append, hthere]
      rfl
  | dropped table trigger => exact apply_like hs h rfl rfl
  | trigger there => exact apply_like hs h rfl rfl

theorem still_rewritten (hs : statement.Creates) (h : db.apply statement = .ok db) (name : String)
    (rows : Option (List Row)) :
    (db.rewritten name rows).apply statement = .ok (db.rewritten name rows) := by
  cases hs with
  | table t =>
    refine createTable_kept h ?_
    rw [table?_rewritten_isSome]
    exact (createTable_ok h).2
  | index table index =>
    obtain ⟨-, -, -, htable, hfree, hthere⟩ := createIndex_ok h
    refine createIndex_kept ?_ ?_ ?_
    · rwa [table?_rewritten_isSome]
    · rw [← Option.not_isSome_iff_eq_none, table?_rewritten_isSome, hfree]
      simp
    · simpa [index?] using hthere

/-! ## What stands -/

/-- The table, its indexes and its trigger are there, and no other trigger has the name of that one. -/
structure Standing (t : TableSchema) (db : Database) : Prop where
  creations : ∀ statement ∈ t.creations, db.apply statement = .ok db
  trigger : ∃ tbl, db.table? t.denotedName = some tbl ∧ ∀ trigger : Trigger,
    trigger ∈ db.triggers ∧ sameName trigger.name (denoted t.trigger) = true ↔
      trigger = ⟨denoted t.trigger, tbl.name⟩

/-- What was applied stands. -/
theorem standing_made {tbl : Table} (h : db.applyAll t.creations = (mid, none))
    (htbl : mid.table? t.denotedName = some tbl) : Standing t (mid.retriggered t tbl) := by
  refine ⟨fun statement hmem => ?_, tbl, htbl, fun trigger => ?_⟩
  · have hstill := stage_again (List.append_nil _).symm h statement hmem
    exact apply_like (t.creates_of_mem hmem) hstill rfl rfl
  · rw [mem_retriggered]
    constructor
    · rintro ⟨⟨-, hother⟩ | rfl, hname⟩
      · rw [hother] at hname
        cases hname
      · rfl
    · rintro rfl
      exact ⟨.inr rfl, sameName_refl _⟩

/-- What stands remains when a statement is applied for a table whose trigger has another name. -/
theorem Standing.effect (h : Standing t db) (hs : other ∈ u.statements .sqlite)
    (hname : sameName (denoted t.trigger) (denoted u.trigger) = false)
    (heffect : Effect db other after) : Standing t after := by
  refine ⟨fun statement hmem => still_effect (t.creates_of_mem hmem) (h.creations _ hmem) heffect, ?_⟩
  obtain ⟨tbl, htbl, htrigger⟩ := h.trigger
  simp only [TableSchema.statements, List.append_nil, List.mem_append, List.mem_map,
    List.mem_cons, List.not_mem_nil, or_false] at hs
  cases heffect with
  | nothing => exact ⟨tbl, htbl, htrigger⟩
  | table absent free distinct =>
    refine ⟨tbl, ?_, htrigger⟩
    rw [table?] at htbl ⊢
    rw [List.find?_append, htbl]
    rfl
  | index column there free absent => exact ⟨tbl, htbl, htrigger⟩
  | dropped table trigger =>
    obtain ⟨-, rfl⟩ : table = u.name ∧ trigger = u.trigger := by simpa using hs
    refine ⟨tbl, htbl, fun trigger => ?_⟩
    rw [← htrigger trigger]
    simp only [dropTrigger, List.mem_filter]
    constructor
    · rintro ⟨⟨hmem, -⟩, hsame⟩
      exact ⟨hmem, hsame⟩
    · rintro ⟨hmem, hsame⟩
      refine ⟨⟨hmem, ?_⟩, hsame⟩
      rw [sameName_comm, sameName_congr hsame, sameName_comm, hname]
      rfl
  | @trigger table trigger on there =>
    obtain ⟨rfl, rfl⟩ : table = u.name ∧ trigger = u.trigger := by simpa using hs
    refine ⟨tbl, htbl, fun trigger => ?_⟩
    rw [← htrigger trigger, List.mem_append, List.mem_singleton]
    constructor
    · rintro ⟨hmem | rfl, hsame⟩
      · exact ⟨hmem, hsame⟩
      · rw [sameName_comm, hname] at hsame
        cases hsame
    · rintro ⟨hmem, hsame⟩
      exact ⟨.inl hmem, hsame⟩

theorem Standing.applyAll (h : Standing t db)
    (hname : sameName (denoted t.trigger) (denoted u.trigger) = false) :
    Standing t (db.applyAll (u.statements .sqlite)).1 := by
  refine applyAll_induction (P := Standing t) ?_ h
  intro statement hs mid after hmid heffect
  exact hmid.effect hs hname heffect

/-- What stands remains when rows are written. -/
theorem Standing.rewritten (h : Standing t db) (name : String) (rows : Option (List Row)) :
    Standing t (db.rewritten name rows) := by
  refine ⟨fun statement hmem =>
    still_rewritten (t.creates_of_mem hmem) (h.creations _ hmem) name rows, ?_⟩
  obtain ⟨tbl, htbl, htrigger⟩ := h.trigger
  have hschema := table?_rewritten_schema db name rows t.denotedName
  rw [htbl] at hschema
  obtain ⟨after, hafter, hsame⟩ := Option.map_eq_some_iff.mp hschema
  refine ⟨after, hafter, ?_⟩
  rw [triggers_rewritten, Table.name, hsame]
  exact htrigger

/-! ## Databases that differ in the order of their triggers -/

/-- Two databases are the same but for the order of their triggers. -/
structure Resembles (db db' : Database) : Prop where
  tables : db.tables = db'.tables
  indexes : db.indexes = db'.indexes
  triggers : ∀ trigger, trigger ∈ db.triggers ↔ trigger ∈ db'.triggers

theorem Resembles.refl (db : Database) : Resembles db db := ⟨rfl, rfl, fun _ => .rfl⟩

theorem Resembles.trans (h : Resembles db mid) (k : Resembles mid after) : Resembles db after :=
  ⟨h.tables.trans k.tables, h.indexes.trans k.indexes,
    fun trigger => (h.triggers trigger).trans (k.triggers trigger)⟩

theorem Resembles.table? (h : Resembles db db') (name : String) : db.table? name = db'.table? name := by
  rw [Database.table?, Database.table?, h.tables]

theorem Resembles.view (h : Resembles db db') (name : String) : db.view name = db'.view name := by
  have htouched : db.isTouched = db'.isTouched := by
    funext tbl
    rw [Bool.eq_iff_iff]
    simp only [isTouched, List.any_eq_true, h.triggers]
  rw [Database.view, Database.view, h.table? name, htouched]

theorem Resembles.rewritten (h : Resembles db db') (name : String) (rows : Option (List Row)) :
    Resembles (db.rewritten name rows) (db'.rewritten name rows) := by
  refine ⟨?_, by simpa using h.indexes, by simpa using h.triggers⟩
  unfold Database.rewritten
  rw [h.table? name]
  cases db'.table? name with
  | none => exact h.tables
  | some tbl =>
    cases rows with
    | none => exact h.tables
    | some given => simp only [putTable, h.tables]

theorem Standing.resembling (h : Standing t db) (hr : Resembles db db') : Standing t db' := by
  refine ⟨fun statement hmem => ?_, ?_⟩
  · rw [apply_like (t.creates_of_mem hmem) (h.creations _ hmem) hr.tables.symm hr.indexes.symm,
      hr.tables, hr.indexes]
  · simp only [← hr.table?, ← hr.triggers]
    exact h.trigger

/-- The statements of a table that stands are applied again, and change the order of the triggers at
most. -/
theorem Standing.again (h : Standing t db) : ∃ after,
    db.applyAll (t.statements .sqlite) = (after, none) ∧ Resembles db after := by
  obtain ⟨tbl, htbl, htrigger⟩ := h.trigger
  refine ⟨db.retriggered t tbl, ?_, rfl, rfl, fun trigger => ?_⟩
  · rw [t.statements_eq, applyAll_append_none (applyAll_still h.creations), applyAll_renewals htbl]
  · rw [mem_retriggered, ← htrigger trigger]
    cases hname : sameName trigger.name (denoted t.trigger) <;> simp

/-- What is made of a table and its indexes has nothing to do with triggers. -/
theorem applyAll_withTriggers {statements : List Statement}
    (hs : ∀ statement ∈ statements, statement.Creates) (db : Database) (triggers : List Trigger) :
    Database.applyAll { db with triggers := triggers } statements =
      ({ (db.applyAll statements).1 with triggers := triggers }, (db.applyAll statements).2) := by
  induction statements generalizing db with
  | nil => rfl
  | cons statement rest ih =>
    rw [Database.applyAll, Database.applyAll, apply_withTriggers (hs statement (List.mem_cons_self ..))]
    cases db.apply statement with
    | error fault => rfl
    | ok mid => exact ih (fun st hst => hs st (List.mem_cons_of_mem _ hst)) mid

/-- An application ends alike on both databases, and leaves them alike. -/
theorem Resembles.applyAll (h : Resembles db db') (t : TableSchema) :
    (db.applyAll (t.statements .sqlite)).2 = (db'.applyAll (t.statements .sqlite)).2 ∧
      Resembles (db.applyAll (t.statements .sqlite)).1 (db'.applyAll (t.statements .sqlite)).1 := by
  have hcreates : ∀ statement ∈ t.creations, statement.Creates := fun _ => t.creates_of_mem
  have hdb' : db' = { db with triggers := db'.triggers } := by
    rw [h.tables, h.indexes]
  have hright := applyAll_withTriggers hcreates db db'.triggers
  rw [← hdb'] at hright
  have hleft := applyAll_withTriggers hcreates db db.triggers
  rcases hc : db.applyAll t.creations with ⟨mid, problem⟩
  rw [hc] at hright hleft
  have hmid : mid.triggers = db.triggers := congrArg (·.1.triggers) hleft
  rw [t.statements_eq]
  cases problem with
  | some problem =>
    rw [applyAll_append_some hc, applyAll_append_some hright]
    refine ⟨rfl, rfl, rfl, fun trigger => ?_⟩
    rw [hmid]
    exact h.triggers trigger
  | none =>
    obtain ⟨tbl, htbl⟩ := exists_table_of_creations hc
    have htbl' : Database.table? { mid with triggers := db'.triggers } t.denotedName = some tbl := htbl
    rw [applyAll_append_none hc, applyAll_append_none hright, applyAll_renewals htbl,
      applyAll_renewals htbl']
    refine ⟨rfl, rfl, rfl, fun trigger => ?_⟩
    rw [mem_retriggered, mem_retriggered, hmid, h.triggers trigger]

end Database

end EntityStore
