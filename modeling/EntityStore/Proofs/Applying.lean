import EntityStore.Proofs.Ensuring
import EntityStore.Proofs.Stages

/-! # Applications, refused or made

All statements of a table are applied, or they stop at one that makes the table or an index: the
trigger is dropped before it is made, so it never stands in its own way. An application that was
refused is refused again for the same reason, so to ensure a table is to apply its statements once.
-/
namespace EntityStore

open Database

namespace Database

variable {t : TableSchema} {db mid after : Database}

/-! ## What a statement does -/

/-- All that a statement can do where it is applied. -/
inductive Effect (db : Database) : Statement → Database → Prop
  | nothing (statement : Statement) : Effect db statement db
  | table {t : TableSchema} (absent : db.table? t.denotedName = none)
    (free : db.index? t.denotedName = none) (distinct : t.Distinct) :
    Effect db (.createTable t) { db with tables := db.tables ++ [⟨t.made, []⟩] }
  | index {table : String} {index : ColumnKey} {tbl : Table} (column : Option String)
    (there : db.table? (denoted table) = some tbl) (free : db.table? (denoted index.name) = none)
    (absent : db.index? (denoted index.name) = none) :
    Effect db (.createIndex table index)
      { db with indexes := db.indexes ++ [⟨denoted index.name, tbl.name, column⟩] }
  | dropped (table trigger : String) :
    Effect db (.dropTrigger table trigger) (db.dropTrigger (denoted trigger))
  | trigger {table trigger : String} {tbl : Table} (there : db.table? (denoted table) = some tbl) :
    Effect db (.createTrigger table trigger)
      { db with triggers := db.triggers ++ [⟨denoted trigger, tbl.name⟩] }

/-- A name that a table may be made under is the name of no index. -/
theorem index?_of_tableNameFault? {name : String} (h : db.tableNameFault? name = none)
    (habsent : db.table? name = none) : db.index? name = none := by
  rw [tableNameFault?, habsent] at h
  split at h
  · cases h
  · simp only [Option.isSome_none, Bool.false_eq_true, if_false] at h
    split at h
    · cases h
    · rename_i hindex
      exact Option.not_isSome_iff_eq_none.mp hindex

theorem effect_of_createTable (h : db.createTable t = .ok after) :
    Effect db (.createTable t) after := by
  have hdistinct := (createTable_ok h).1
  simp only [createTable] at h
  split at h
  · cases h
  · rename_i hfault
    simp only [createTableFault?, Option.orElse_eq_orElse, Option.orElse_eq_or,
      Option.or_eq_none_iff] at hfault
    split at h
    · cases h
      exact .nothing _
    · rename_i hthere
      have habsent : db.table? t.denotedName = none := Option.not_isSome_iff_eq_none.mp hthere
      cases h
      refine .table habsent (index?_of_tableNameFault? hfault.2.2.1 habsent) ?_
      rcases hdistinct with hsame | ⟨-, hd, -⟩
      · rw [habsent, table?, List.find?_eq_none] at hsame
        exact absurd (sameName_refl t.denotedName) (hsame ⟨t.made, []⟩ (by simp [TableSchema.made]))
      · exact hd

theorem effect_of_createIndex {table : String} {index : ColumnKey}
    (h : db.apply (.createIndex table index) = .ok after) :
    Effect db (.createIndex table index) after := by
  simp only [apply, createIndex] at h
  split at h
  · cases h
  · rename_i tbl htbl
    split at h
    · cases h
    · rename_i hfree
      have hfree := Option.not_isSome_iff_eq_none.mp hfree
      split at h
      · cases h
        exact .nothing _
      · rename_i habsent
        have habsent := Option.not_isSome_iff_eq_none.mp habsent
        split at h
        · cases h
          exact .index _ htbl hfree habsent
        · split at h
          · cases h
            exact .index _ htbl hfree habsent
          · cases h

theorem effect_of_apply {statement : Statement} (h : db.apply statement = .ok after) :
    Effect db statement after := by
  cases statement with
  | createTable t => exact effect_of_createTable h
  | createIndex table index => exact effect_of_createIndex h
  | touchFunction =>
    cases h
    exact .nothing _
  | dropTrigger table trigger =>
    cases h
    exact .dropped table trigger
  | createTrigger table trigger =>
    simp only [apply, createTrigger] at h
    split at h
    · cases h
    · rename_i tbl htbl
      split at h
      · cases h
      · cases h
        exact .trigger htbl

theorem isSome_table?_append (tbl : Table) (name : String) :
    (Database.table? { db with tables := db.tables ++ [tbl] } name).isSome =
      ((db.table? name).isSome || sameName tbl.name name) := by
  simp only [table?, List.find?_append, Option.isSome_or]
  cases h : sameName tbl.name name <;> simp [h]

theorem table?_append_other {tbl : Table} {name : String} (h : sameName tbl.name name = false) :
    Database.table? { db with tables := db.tables ++ [tbl] } name = db.table? name := by
  simp [table?, List.find?_append, h]

theorem isSome_index?_append (i : Index) (name : String) :
    (Database.index? { db with indexes := db.indexes ++ [i] } name).isSome =
      ((db.index? name).isSome || sameName i.name name) := by
  simp only [index?, List.find?_append, Option.isSome_or]
  cases h : sameName i.name name <;> simp [h]

/-- What every statement preserves, any statements preserve, also if they stop. -/
theorem applyAll_induction {P : Database → Prop} {statements : List Statement}
    (hstep : ∀ statement ∈ statements, ∀ db after, P db → Effect db statement after → P after)
    (h : P db) : P (db.applyAll statements).1 := by
  induction statements generalizing db with
  | nil => exact h
  | cons statement rest ih =>
    rw [applyAll]
    cases ha : db.apply statement with
    | error fault => exact h
    | ok mid =>
      exact ih (fun st hst => hstep st (List.mem_cons_of_mem _ hst))
        (hstep statement (List.mem_cons_self ..) db mid h (effect_of_apply ha))

/-! ## Where statements stop -/

theorem applyAll_append_none {first second : List Statement}
    (h : db.applyAll first = (mid, none)) : db.applyAll (first ++ second) = mid.applyAll second := by
  induction first generalizing db with
  | nil =>
    cases h
    rfl
  | cons statement rest ih =>
    obtain ⟨next, hnext, hrest⟩ := applyAll_cons.mp h
    rw [List.cons_append, applyAll, hnext]
    exact ih hrest

theorem applyAll_append_some {first second : List Statement} {problem : Statement × Fault}
    (h : db.applyAll first = (mid, some problem)) :
    db.applyAll (first ++ second) = (mid, some problem) := by
  induction first generalizing db with
  | nil => cases h
  | cons statement rest ih =>
    rw [List.cons_append, applyAll]
    rw [applyAll] at h
    cases ha : db.apply statement with
    | error fault => rwa [ha] at h
    | ok next =>
      rw [ha] at h
      exact ih h

/-- Statements stop at the first that cannot be applied to what the ones before it made. -/
theorem applyAll_some {statements : List Statement} {problem : Statement × Fault}
    (h : db.applyAll statements = (mid, some problem)) : ∃ done rest,
      statements = done ++ problem.1 :: rest ∧ db.applyAll done = (mid, none) ∧
      mid.apply problem.1 = .error problem.2 := by
  induction statements generalizing db with
  | nil => cases h
  | cons statement rest ih =>
    rw [applyAll] at h
    cases ha : db.apply statement with
    | error fault =>
      rw [ha] at h
      cases h
      exact ⟨[], rest, rfl, rfl, ha⟩
    | ok next =>
      rw [ha] at h
      obtain ⟨done, left, rfl, hdone, hstop⟩ := ih h
      exact ⟨statement :: done, left, rfl, applyAll_cons.mpr ⟨next, ha, hdone⟩, hstop⟩

/-! ## The trigger -/

/-- The database in which the trigger of a table was dropped and made anew. -/
def retriggered (db : Database) (t : TableSchema) (tbl : Table) : Database :=
  { db with triggers := (db.dropTrigger (denoted t.trigger)).triggers ++
      [⟨denoted t.trigger, tbl.name⟩] }

theorem mem_retriggered {tbl : Table} {trigger : Trigger} :
    trigger ∈ (db.retriggered t tbl).triggers ↔
      trigger ∈ db.triggers ∧ sameName trigger.name (denoted t.trigger) = false ∨
        trigger = ⟨denoted t.trigger, tbl.name⟩ := by
  simp [retriggered, dropTrigger]

theorem applyAll_renewals {tbl : Table} (h : db.table? t.denotedName = some tbl) :
    db.applyAll t.renewals = (db.retriggered t tbl, none) := by
  have htable : (db.dropTrigger (denoted t.trigger)).table? (denoted t.name) = some tbl := h
  have hfree : (db.dropTrigger (denoted t.trigger)).triggers.any
      (sameName ·.name (denoted t.trigger)) = false := by
    simp [dropTrigger]
  refine applyAll_cons.mpr ⟨_, rfl, applyAll_cons.mpr ⟨_, ?_, rfl⟩⟩
  simp only [apply, createTrigger, htable, hfree]
  rfl

/-- The creations of a table leave it there. -/
theorem exists_table_of_creations (h : db.applyAll t.creations = (mid, none)) :
    ∃ tbl, mid.table? t.denotedName = some tbl := by
  obtain ⟨first, hfirst, hrest⟩ := applyAll_cons.mp h
  have htables : mid.tables = first.tables := by
    have hkept := @tables_applyAll (t.indexes.map (.createIndex t.name)) (by simp) first
    rwa [hrest] at hkept
  rw [← Option.isSome_iff_exists, table?, htables]
  exact (createTable_ok hfirst).2

/-- How the statements of a table end: at one that makes the table or an index, or with the trigger
made anew. -/
inductive Application (t : TableSchema) (db : Database) :
    Database × Option (Statement × Fault) → Prop
  | refused {mid : Database} {problem : Statement × Fault}
    (h : db.applyAll t.creations = (mid, some problem)) : Application t db (mid, some problem)
  | made {made : Database} {tbl : Table} (h : db.applyAll t.creations = (made, none))
    (table : made.table? t.denotedName = some tbl) : Application t db (made.retriggered t tbl, none)

theorem application (t : TableSchema) (db : Database) :
    Application t db (db.applyAll (t.statements .sqlite)) := by
  rw [t.statements_eq]
  rcases hc : db.applyAll t.creations with ⟨mid, _ | problem⟩
  · rw [applyAll_append_none hc]
    obtain ⟨tbl, htbl⟩ := exists_table_of_creations hc
    rw [applyAll_renewals htbl]
    exact .made hc htbl
  · rw [applyAll_append_some hc]
    exact .refused hc

/-- An application that was refused is refused again, for the same reason. -/
theorem refused_again {problem : Statement × Fault}
    (h : db.applyAll (t.statements .sqlite) = (mid, some problem)) :
    mid.applyAll (t.statements .sqlite) = (mid, some problem) := by
  have hcases := application t db
  rw [h] at hcases
  cases hcases with
  | refused hc =>
    obtain ⟨done, rest, hsplit, hdone, hstop⟩ := applyAll_some hc
    -- what was made before the fault is made no second time
    have hstill : mid.applyAll done = (mid, none) := applyAll_still (stage_again hsplit hdone)
    rw [t.statements_eq, hsplit, List.append_assoc, applyAll_append_none hstill, List.cons_append,
      applyAll, hstop]

end Database

/-! ## Ensuring is applying once -/

namespace Store

open EntityStore.Action

variable {e : Registered} {s s' : Store} {db : Database} {r : Except Failure TableSchema}

/-- What is told of an application: the table, or why it cannot be had. -/
def told (t : TableSchema) (problem : Option (Statement × Fault)) : Except Failure TableSchema :=
  match problem? problem with
  | none => .ok t
  | some reason => .error (.schemaSync t.name reason)

/-- To ensure a table that counts as applied is to do nothing. -/
theorem ensure_known (h : s.isApplied e = true) : (ensure e).on s = (.ok e.schema, s) := by
  unfold ensure ensureInterrupted
  simp only [on_bind, on_get, h, if_true, on_pure, on_ofExcept]

/-- One application of the statements, and a mark if it went through. -/
structure Settled (e : Registered) (s : Store) (db : Database) (r : Except Failure TableSchema)
    (s' : Store) : Prop where
  answer : r = told e.schema (db.applyAll (e.schema.statements .sqlite)).2
  database : s'.database? = some (db.applyAll (e.schema.statements .sqlite)).1
  applied : s'.applied =
    if (db.applyAll (e.schema.statements .sqlite)).2.isNone then e.place :: s.applied else s.applied

theorem ensure_settled (hdb : s.database? = some db) (hs : s.isApplied e = false)
    (h : (ensure e).on s = (r, s')) : Settled e s db r s' := by
  cases ensure_reached hdb hs h with
  | @once after ha =>
    have hafter : (s.stored after).database? = some after := database?_stored hdb after
    exact ⟨by rw [ha]; rfl, by rw [ha]; exact hafter, by rw [ha]; simp [marked]⟩
  | @twice mid after fault ha _ hb =>
    rw [refused_again ha] at hb
    cases hb
  | @absent mid fault reason ha _ htold =>
    have hmid : (s.stored mid).opened.database? = some mid := database?_stored hdb mid
    refine ⟨by rw [ha, told, htold], by rw [ha]; exact hmid, by rw [ha]; simp [opened]⟩
  | @failed mid after fault fault' reason ha _ hb htold =>
    rw [refused_again ha] at hb
    cases hb
    have hmid : (s.stored mid).opened.database? = some mid := database?_stored hdb mid
    have hafter := database?_stored hmid mid
    refine ⟨by rw [ha, told, htold], by rw [ha]; exact hafter, by rw [ha]; simp [opened]⟩

/-! ## Databases that are not reached -/

/-- Why a store reaches no database, as it is told; what is told may hang on whether there is a file
that is no database. -/
def obstacle? (s : Store) (tell : Bool → Fault → Failure) : Option Failure :=
  match s.link.engineTarget s.files with
  | .error f => some f
  | .ok u =>
    match s.databaseAt (s.link.location u) with
    | .error fault => some (tell (s.isForeign (s.link.location u)) fault)
    | .ok _ => none

theorem obstacle_of_unreached (h : s.database? = none) (tell : Bool → Fault → Failure) :
    ∃ f, s.obstacle? tell = some f := by
  unfold database? at h
  unfold obstacle?
  cases hu : s.link.engineTarget s.files with
  | error f => exact ⟨f, rfl⟩
  | ok u =>
    simp only [hu] at h
    cases hd : s.databaseAt (s.link.location u) with
    | error fault => exact ⟨tell (s.isForeign (s.link.location u)) fault, by simp only [hd]⟩
    | ok db => simp [hd, Except.toOption] at h

/-- An obstacle is an engine that cannot be made, or a place that holds no database. -/
theorem obstacle_cases {tell : Bool → Fault → Failure} {f : Failure} (h : s.obstacle? tell = some f) :
    s.link.engineTarget s.files = .error f ∨
      ∃ u fault, s.link.engineTarget s.files = .ok u ∧
        s.databaseAt (s.link.location u) = .error fault ∧
        f = tell (s.isForeign (s.link.location u)) fault := by
  unfold obstacle? at h
  cases hu : s.link.engineTarget s.files with
  | error g =>
    rw [hu] at h
    cases h
    exact .inl rfl
  | ok u =>
    simp only [hu] at h
    cases hd : s.databaseAt (s.link.location u) with
    | ok db => simp [hd] at h
    | error fault =>
      simp only [hd] at h
      cases h
      exact .inr ⟨u, fault, rfl, hd, rfl⟩

/-- Two stores that reach no database for the same link and files are told the same. -/
theorem obstacle_congr (hlink : s.link = s'.link) (hfiles : s.files = s'.files)
    (hdisk : s.disk = s'.disk) (h : s.database? = none) (tell : Bool → Fault → Failure) :
    s.obstacle? tell = s'.obstacle? tell := by
  unfold database? at h
  unfold obstacle?
  rw [← hlink, ← hfiles]
  cases hu : s.link.engineTarget s.files with
  | error f => rfl
  | ok u =>
    simp only [hu] at h
    have hforeign : s.isForeign (s.link.location u) = s'.isForeign (s.link.location u) := by
      unfold isForeign
      rw [hfiles, hdisk]
    have hat : s.databaseAt (s.link.location u) = s'.databaseAt (s.link.location u) := by
      cases hplace : s.link.location u with
      | memory =>
        rw [hplace] at h
        cases h
      | server => rfl
      | file path =>
        rw [hplace] at hforeign
        simp only [databaseAt, hforeign, hfiles, hdisk]
        cases (Link.Location.file path).fault? s'.files <;> rfl
    simp only [hforeign, hat]

@[simp] theorem opened_opened (s : Store) : s.opened.opened = s.opened := by
  simp [opened]

theorem transaction_obstacle {α : Type} {entity operation : String} {f : Failure}
    {run : Database → Except Failure (Database × α)}
    (h : s.obstacle? (fun _ fault => fault.failure entity operation) = some f) :
    (transaction entity operation run).on s = (.error f, s.opened) := by
  unfold transaction
  rcases obstacle_cases h with hu | ⟨u, fault, hu, hd, rfl⟩
  · simp [engine_on, hu, opened_of_error hu]
  · have hopened : s.opened.databaseAt (s.link.location u) = .error fault := hd
    simp only [on_bind, engine_on, hu, on_get, hopened]
    rfl

/-- How a table is refused that no database is reached for. -/
def tellUnreached (t : TableSchema) (isForeign : Bool) (fault : Fault) : Failure :=
  .schemaSync t.name (fault.report
    (if isForeign then some ((((t.statements .sqlite).head?).map (·.sql .sqlite)).getD "") else none))

theorem ensure_obstacle {f : Failure} (hs : s.isApplied e = false)
    (h : s.obstacle? (tellUnreached e.schema) = some f) :
    (ensure e).on s = (.error f, s.opened) := by
  have hns : ¬ s.isApplied e = true := by simp [hs]
  unfold ensure ensureInterrupted
  simp only [on_bind, on_get, if_neg hns, List.getD_nil, applyInterrupted]
  rcases obstacle_cases h with hu | ⟨u, fault, hu, hd, rfl⟩
  · unfold applyOnce
    simp only [on_bind, engine_on, hu, opened_of_error hu]
  · have hopened : s.opened.databaseAt (s.link.location u) = .error fault := hd
    have hlink : s.opened.link.engineTarget s.opened.files = .ok u := hu
    have hlocation : s.opened.link.location u = s.link.location u := rfl
    have hattempt : (applyOnce (TableSchema.ofDescriptor e.descriptor)).on s =
        (.ok (some (s.firstReport (s.link.location u)
          ((((e.schema.statements .sqlite).head?).map (·.sql .sqlite)).getD "") fault)),
          s.opened) := by
      unfold applyOnce
      simp only [on_bind, engine_on, hu, on_get, hopened, on_pure]
      rfl
    have hlook : (hasTable (TableSchema.ofDescriptor e.descriptor).name).on s.opened =
        (.ok false, s.opened) := by
      unfold hasTable
      simp only [on_bind, engine_on, hlink, on_get, opened_opened, hlocation, hopened, on_pure]
    simp only [hattempt, hlook, on_bind, Bool.false_eq_true, if_false, on_pure, on_ofExcept]
    rfl

end Store

end EntityStore
