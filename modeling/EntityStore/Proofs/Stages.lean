import EntityStore.Proofs.Statements

/-! # On the way to a table

The statements of a table are applied one by one, and some may be applied again. A statement that
makes the table or an index does nothing where its thing exists; the trigger is dropped and made
anew. So a database stays on the way to the one that a single application makes of an empty one.
-/
namespace EntityStore

open Database

namespace TableSchema

/-- The statements that make the table and its indexes. -/
def creations (t : TableSchema) : List Statement :=
  .createTable t :: t.indexes.map (.createIndex t.name)

/-- The statements that make the trigger anew. -/
def renewals (t : TableSchema) : List Statement :=
  [.dropTrigger t.name t.trigger, .createTrigger t.name t.trigger]

theorem statements_eq (t : TableSchema) : t.statements .sqlite = t.creations ++ t.renewals := by
  simp [statements, creations, renewals]

/-- What a second trigger of the table meets. -/
def clash (t : TableSchema) : Fault :=
  .operational ("trigger " ++ denoted t.trigger ++ " already exists")

end TableSchema

/-- A statement that makes a table or an index, and nothing where that exists. -/
inductive Statement.Creates : Statement → Prop
  | table (t : TableSchema) : Creates (.createTable t)
  | index (table : String) (index : ColumnKey) : Creates (.createIndex table index)

theorem TableSchema.creates_of_mem {t : TableSchema} {statement : Statement}
    (h : statement ∈ t.creations) : statement.Creates := by
  rcases List.mem_cons.mp h with rfl | h
  · exact .table t
  · obtain ⟨index, -, rfl⟩ := List.mem_map.mp h
    exact .index t.name index

namespace Database

variable {db after later : Database} {statement : Statement}

/-! ## Statements that were applied -/

theorem index?_isSome_iff {name : String} :
    (db.index? name).isSome = true ↔ ∃ i ∈ db.indexes, sameName i.name name = true := by
  simp [index?]

/-- Columns that could be made can be read. -/
theorem columnFault?_known {table : String} {isNew : Bool} {columns : List Column}
    {earlier others : List String} (h : columnFault? table isNew earlier columns = none) :
    columnFault? table false others columns = none := by
  induction columns generalizing earlier others with
  | nil => rfl
  | cons c rest ih =>
    rw [columnFault?] at h ⊢
    cases hs : syntaxFault? c.name with
    | some fault =>
      rw [hs] at h
      cases h
    | none =>
      simp only [hs, Bool.false_and, Bool.false_eq_true, if_false] at h ⊢
      split at h
      · cases h
      · split at h
        · cases h
        · split at h
          · cases h
          · exact ih h

theorem table?_schema (db : Database) (name : String) :
    (db.table? name).map (·.schema) = db.schemas.find? fun u => sameName u.name name := by
  rw [table?, schemas, List.find?_map]
  rfl

theorem table?_isSome_congr (h : later.schemas = after.schemas) (name : String) :
    (later.table? name).isSome = (after.table? name).isSome := by
  rw [Bool.eq_iff_iff, table?_isSome_iff, table?_isSome_iff, h]

/-- A table that could be made is not made again where there is one of its name. -/
theorem createTable_kept {t : TableSchema} (h : db.createTable t = .ok after)
    (hlater : (later.table? t.denotedName).isSome = true) : later.createTable t = .ok later := by
  simp only [createTable] at h
  split at h
  · cases h
  · rename_i hfault
    simp only [createTableFault?, Option.orElse_eq_orElse, Option.orElse_eq_or,
      Option.or_eq_none_iff] at hfault
    obtain ⟨htext, hsyntax, hname, hcolumns⟩ := hfault
    have hsystem : isSystemName (denoted t.name) = false := by
      rw [tableNameFault?] at hname
      split at hname
      · cases hname
      · rename_i hn
        exact Bool.eq_false_iff.mpr hn
    have hknown : later.createTableFault? t = none := by
      have hnew : (later.table? (denoted t.name)).isNone = false := by
        rw [Option.isNone_eq_false_iff]
        exact hlater
      have hthere : (later.table? (denoted t.name)).isSome = true := hlater
      simp only [createTableFault?, Option.orElse_eq_orElse, Option.orElse_eq_or,
        Option.or_eq_none_iff]
      refine ⟨htext, hsyntax, ?_, ?_⟩
      · simp [tableNameFault?, hsystem, hthere]
      · rw [hnew]
        exact columnFault?_known hcolumns
    simp only [createTable, hknown]
    rw [if_pos]
    exact hlater

/-- A table that is there is not made again. -/
theorem createTable_again {t : TableSchema} (h : db.createTable t = .ok after)
    (hschemas : later.schemas = after.schemas) : later.createTable t = .ok later := by
  refine createTable_kept h ?_
  rw [table?_isSome_congr hschemas]
  exact (createTable_ok h).2

theorem createIndex_ok {table name column : String}
    (h : db.createIndex table name column = .ok after) :
    after.tables = db.tables ∧ after.triggers = db.triggers ∧ db.indexes ⊆ after.indexes ∧
      (db.table? table).isSome = true ∧ db.table? name = none ∧
      (after.index? name).isSome = true := by
  have hmade : ∀ column : Option String, ∀ tbl : Table,
      (Database.index? { db with indexes := db.indexes ++ [⟨name, tbl.name, column⟩] } name).isSome
        = true := by
    intro column tbl
    exact index?_isSome_iff.mpr ⟨_, List.mem_append_right _ (List.mem_singleton_self _),
      sameName_refl _⟩
  simp only [createIndex] at h
  split at h
  · cases h
  · rename_i tbl htable
    split at h
    · cases h
    · rename_i hname
      have hnone := Option.not_isSome_iff_eq_none.mp hname
      split at h
      · rename_i hindex
        cases h
        exact ⟨rfl, rfl, List.Subset.refl _, by rw [htable]; rfl, hnone, hindex⟩
      · split at h
        · cases h
          exact ⟨rfl, rfl, List.subset_append_left _ _, by rw [htable]; rfl, hnone, hmade _ _⟩
        · split at h
          · cases h
            exact ⟨rfl, rfl, List.subset_append_left _ _, by rw [htable]; rfl, hnone, hmade _ _⟩
          · cases h

/-- An index is not made again where there is one of its name, and no table of it. -/
theorem createIndex_kept {table name column : String} (htable : (later.table? table).isSome = true)
    (hfree : later.table? name = none) (hthere : (later.index? name).isSome = true) :
    later.createIndex table name column = .ok later := by
  obtain ⟨tbl, htbl⟩ := Option.isSome_iff_exists.mp htable
  simp [createIndex, htbl, hfree, hthere]

/-- An index that is there is not made again. -/
theorem createIndex_again {table name column : String}
    (h : db.createIndex table name column = .ok after) (hschemas : later.schemas = after.schemas)
    (hindexes : after.indexes ⊆ later.indexes) :
    later.createIndex table name column = .ok later := by
  obtain ⟨hkept, -, -, htable, hname, hindex⟩ := createIndex_ok h
  have hfind : ∀ n, (later.table? n).isSome = (db.table? n).isSome := by
    apply table?_isSome_congr
    rw [hschemas, schemas, hkept, schemas]
  have hthere : (later.index? name).isSome = true := by
    obtain ⟨i, hi, hn⟩ := index?_isSome_iff.mp hindex
    exact index?_isSome_iff.mpr ⟨i, hindexes hi, hn⟩
  have hfree : later.table? name = none := by
    rw [← Option.not_isSome_iff_eq_none, hfind, hname]
    simp
  rw [← hfind] at htable
  exact createIndex_kept htable hfree hthere

/-- A statement that made its thing does nothing as long as the thing is there. -/
theorem apply_again (hs : statement.Creates) (h : db.apply statement = .ok after)
    (hschemas : later.schemas = after.schemas) (hindexes : after.indexes ⊆ later.indexes) :
    later.apply statement = .ok later := by
  cases hs with
  | table t => exact createTable_again h hschemas
  | index table index => exact createIndex_again h hschemas hindexes

/-- Making a table or an index takes nothing away, and has nothing to do with triggers. -/
theorem indexes_apply (hs : statement.Creates) (h : db.apply statement = .ok after) :
    db.indexes ⊆ after.indexes ∧ after.triggers = db.triggers := by
  cases hs with
  | table t =>
    simp only [apply, createTable] at h
    split at h
    · cases h
    · split at h <;> cases h <;> exact ⟨List.Subset.refl _, rfl⟩
  | index table index =>
    obtain ⟨-, htriggers, hindexes, -⟩ := createIndex_ok h
    exact ⟨hindexes, htriggers⟩

theorem apply_withTriggers (hs : statement.Creates) (db : Database) (triggers : List Trigger) :
    Database.apply statement { db with triggers := triggers } =
      (db.apply statement).map fun after => { after with triggers := triggers } := by
  cases hs with
  | table t =>
    have hfault : createTableFault? { db with triggers := triggers } t = db.createTableFault? t := rfl
    have htable : ∀ name, table? { db with triggers := triggers } name = db.table? name :=
      fun _ => rfl
    simp only [apply, createTable, hfault, htable]
    cases db.createTableFault? t with
    | some fault => rfl
    | none =>
      by_cases hthere : (db.table? (t.rename denoted).name).isSome = true
      · simp [hthere, Except.map]
      · simp [hthere, Except.map]
  | index table index =>
    have htable : ∀ name, table? { db with triggers := triggers } name = db.table? name :=
      fun _ => rfl
    have hindex : ∀ name, index? { db with triggers := triggers } name = db.index? name :=
      fun _ => rfl
    simp only [apply, createIndex, htable, hindex]
    cases db.table? (denoted table) with
    | none => rfl
    | some tbl =>
      by_cases hname : (db.table? (denoted index.name)).isSome = true
      · simp [hname, Except.map]
      · by_cases hthere : (db.index? (denoted index.name)).isSome = true
        · simp [hname, hthere, Except.map]
        · cases hc : tbl.columns.find? fun c => sameName c.name (denoted index.column) with
          | some c => simp [hname, hthere, hc, Except.map]
          | none =>
            by_cases hquoted : Dialect.sqlite.needsQuotes (denoted index.column) = true
            · simp [hname, hthere, hc, hquoted, Except.map]
            · simp [hname, hthere, hc, hquoted, Except.map]

/-- Whether a table or an index can be made hangs on the tables and the indexes only. -/
theorem apply_like (hs : statement.Creates) (h : db.apply statement = .ok after)
    (htables : later.tables = db.tables) (hindexes : later.indexes = db.indexes) :
    later.apply statement = .ok { after with triggers := later.triggers } := by
  have hlater : later = { db with triggers := later.triggers } := by
    rw [← htables, ← hindexes]
  rw [hlater, apply_withTriggers hs, h]
  rfl

/-- Statements that were applied stay without effect while others follow. -/
theorem applied_again {earlier statements : List Statement}
    (hkinds : ∀ statement ∈ statements, ∀ u, statement ≠ .createTable u)
    (hs : ∀ statement ∈ earlier ++ statements, statement.Creates)
    (hearlier : ∀ statement ∈ earlier, db.apply statement = .ok db)
    (h : db.applyAll statements = (after, none)) :
    ∀ statement ∈ earlier ++ statements, after.apply statement = .ok after := by
  induction statements generalizing earlier db with
  | nil =>
    cases h
    simpa using hearlier
  | cons first rest ih =>
    obtain ⟨mid, hfirst, hrest⟩ := applyAll_cons.mp h
    have hschemas : mid.schemas = db.schemas :=
      congrArg (List.map Table.schema) (tables_apply (hkinds first (by simp)) hfirst)
    have hindexes : db.indexes ⊆ mid.indexes := (indexes_apply (hs first (by simp)) hfirst).1
    have hmid : ∀ statement ∈ earlier ++ [first], mid.apply statement = .ok mid := by
      intro statement hmem
      rcases List.mem_append.mp hmem with hmem | hmem
      · exact apply_again (hs _ (List.mem_append_left _ hmem)) (hearlier _ hmem) hschemas hindexes
      · rw [List.mem_singleton.mp hmem]
        exact apply_again (hs first (by simp)) hfirst rfl (List.Subset.refl _)
    have hall := ih (fun statement hmem => hkinds statement (List.mem_cons_of_mem _ hmem))
      (by simpa using hs) hmid hrest
    simpa using hall

/-- Statements that do nothing one by one do nothing together. -/
theorem applyAll_still {statements : List Statement}
    (h : ∀ statement ∈ statements, db.apply statement = .ok db) :
    db.applyAll statements = (db, none) := by
  induction statements with
  | nil => rfl
  | cons statement rest ih =>
    have hrest := ih fun statement hmem => h statement (List.mem_cons_of_mem _ hmem)
    exact applyAll_cons.mpr ⟨db, h statement (List.mem_cons_self ..), hrest⟩

/-! ## The stages of a table -/

section Stages

variable {t : TableSchema} {full db : Database} {rest left : List Statement}

theorem stage_again {start stage : Database} {done : List Statement}
    (hdone : t.creations = done ++ rest) (h : start.applyAll done = (stage, none)) :
    ∀ statement ∈ done, stage.apply statement = .ok stage := by
  cases done with
  | nil => simp
  | cons first others =>
    have hfirst : t.creations = first :: (others ++ rest) := hdone
    obtain ⟨rfl, hothers⟩ := List.cons.inj hfirst
    obtain ⟨mid, hmade, hrest⟩ := applyAll_cons.mp h
    have hmid : ∀ statement ∈ [Statement.createTable t], mid.apply statement = .ok mid := by
      intro statement hmem
      rw [List.mem_singleton.mp hmem]
      exact apply_again (.table t) hmade rfl (List.Subset.refl _)
    have hkinds : ∀ statement ∈ others, ∀ u, statement ≠ .createTable u := by
      intro statement hmem u
      have hmem : statement ∈ t.indexes.map (.createIndex t.name) := by
        rw [hothers]
        exact List.mem_append_left _ hmem
      obtain ⟨index, -, rfl⟩ := List.mem_map.mp hmem
      simp
    refine applied_again hkinds ?_ hmid hrest
    intro statement hmem
    apply t.creates_of_mem
    rw [hdone]
    exact List.mem_append_left _ hmem

/-- A database has the tables and the indexes that the creations before `rest` make of an empty
one. -/
def Underway (t : TableSchema) (rest : List Statement) (db : Database) : Prop :=
  ∃ done stage, t.creations = done ++ rest ∧ ({} : Database).applyAll done = (stage, none) ∧
    db.tables = stage.tables ∧ db.indexes = stage.indexes

theorem underway_empty (t : TableSchema) : Underway t t.creations {} :=
  ⟨[], {}, rfl, rfl, rfl, rfl⟩

theorem Underway.withTriggers (h : Underway t rest db) (triggers : List Database.Trigger) :
    Underway t rest { db with triggers := triggers } := h

theorem Underway.suffix (h : Underway t rest db) : rest <:+ t.creations := by
  obtain ⟨done, -, hdone, -⟩ := h
  exact ⟨done, hdone.symm⟩

/-- The next creation takes a database on; one that was applied before leaves it where it is. -/
theorem Underway.step (hfull : ({} : Database).applyAll (t.statements .sqlite) = (full, none))
    (h : Underway t rest db) {statement : Statement} (hleft : statement :: left <:+ t.creations)
    (hrest : rest <:+ statement :: left) :
    ∃ after rest', db.apply statement = .ok after ∧ after.triggers = db.triggers ∧
      Underway t rest' after ∧ rest' <:+ left ∧ rest' <:+ rest := by
  obtain ⟨done, stage, hdone, hstage, htables, hindexes⟩ := h
  have hcreates : statement.Creates := t.creates_of_mem (hleft.subset (List.mem_cons_self ..))
  rcases List.suffix_cons_iff.mp hrest with rfl | hrest
  · -- the statement is the first that was not applied
    have hall : ({} : Database).applyAll (done ++ statement :: (left ++ t.renewals)) = (full, none) := by
      rw [← hfull, t.statements_eq, hdone]
      simp
    obtain ⟨mid, hmid, hnext⟩ := applyAll_append.mp hall
    rw [hstage] at hmid
    cases hmid
    obtain ⟨next, hnext, -⟩ := applyAll_cons.mp hnext
    refine ⟨_, left, apply_like hcreates hnext htables hindexes, rfl, ?_, List.suffix_refl _,
      List.suffix_cons _ _⟩
    refine ⟨done ++ [statement], next, by simp [hdone], ?_, rfl, rfl⟩
    exact applyAll_append.mpr ⟨_, hstage, applyAll_cons.mpr ⟨next, hnext, rfl⟩⟩
  · obtain ⟨skipped, rfl⟩ := hrest
    obtain ⟨before, hbefore⟩ := hleft
    have hmem : statement ∈ done := by
      have heq : done ++ rest = (before ++ statement :: skipped) ++ rest := by
        rw [← hdone, ← hbefore]
        simp
      rw [List.append_cancel_right heq]
      simp
    have hagain := apply_like hcreates (stage_again hdone hstage statement hmem) htables hindexes
    have hsame : ({ stage with triggers := db.triggers } : Database) = db := by
      rw [← htables, ← hindexes]
    rw [hsame] at hagain
    exact ⟨db, rest, hagain, rfl, ⟨done, stage, hdone, hstage, htables, hindexes⟩,
      List.suffix_append _ _, List.suffix_refl _⟩

/-- Creations from any one on are applied without a fault, however many of them. -/
theorem Underway.take (hfull : ({} : Database).applyAll (t.statements .sqlite) = (full, none))
    (h : Underway t rest db) (hleft : left <:+ t.creations) (hrest : rest <:+ left) (k : ℕ) :
    ∃ after rest', db.applyAll (left.take k) = (after, none) ∧ after.triggers = db.triggers ∧
      Underway t rest' after ∧ rest' <:+ left.drop k := by
  induction left generalizing rest db k with
  | nil => exact ⟨db, rest, by simp [applyAll], rfl, h, by simpa using hrest⟩
  | cons statement left ih =>
    cases k with
    | zero => exact ⟨db, rest, rfl, rfl, h, hrest⟩
    | succ k =>
      obtain ⟨mid, rest₁, hfirst, htriggers, hmid, hrest₁, -⟩ := h.step hfull hleft hrest
      obtain ⟨after, rest₂, hothers, htriggers', hafter, hrest₂⟩ :=
        ih hmid ((List.suffix_cons _ _).trans hleft) hrest₁ k
      refine ⟨after, rest₂, ?_, htriggers'.trans htriggers, hafter, hrest₂⟩
      exact applyAll_cons.mpr ⟨mid, hfirst, hothers⟩

/-! ## The trigger -/

theorem triggers_applyAll {after : Database} {statements : List Statement}
    (hs : ∀ statement ∈ statements, statement.Creates)
    (h : db.applyAll statements = (after, none)) : after.triggers = db.triggers := by
  induction statements generalizing db with
  | nil =>
    cases h
    rfl
  | cons first rest ih =>
    obtain ⟨mid, hfirst, hrest⟩ := applyAll_cons.mp h
    rw [ih (fun statement hmem => hs statement (List.mem_cons_of_mem _ hmem)) hrest]
    exact (indexes_apply (hs first (by simp)) hfirst).2

/-- What a single application makes: all that the creations make, and one trigger. -/
theorem completed (hfull : ({} : Database).applyAll (t.statements .sqlite) = (full, none)) :
    ∃ made tbl, ({} : Database).applyAll t.creations = (made, none) ∧
      made.table? (denoted t.name) = some tbl ∧
      full = { made with triggers := [⟨denoted t.trigger, tbl.name⟩] } := by
  rw [t.statements_eq] at hfull
  obtain ⟨made, hmade, hrenewed⟩ := applyAll_append.mp hfull
  obtain ⟨dropped, hdrop, hcreated⟩ := applyAll_cons.mp hrenewed
  obtain ⟨_, hcreate, hend⟩ := applyAll_cons.mp hcreated
  cases hdrop
  cases hend
  have hnone : made.triggers = [] := triggers_applyAll (fun _ => t.creates_of_mem) hmade
  have htable : (made.dropTrigger (denoted t.trigger)).table? (denoted t.name) =
      made.table? (denoted t.name) := rfl
  simp only [apply, createTrigger, htable] at hcreate
  split at hcreate
  · cases hcreate
  · rename_i tbl htbl
    split at hcreate
    · cases hcreate
    · cases hcreate
      exact ⟨made, tbl, hmade, htbl, by simp [dropTrigger, hnone]⟩

/-- A database on the way has no trigger, or the one that a single application makes. -/
structure Nearing (t : TableSchema) (full : Database) (rest : List Statement) (db : Database) :
    Prop where
  underway : Underway t rest db
  triggers : db.triggers = [] ∨ db.triggers = full.triggers

theorem nearing_empty (t : TableSchema) (full : Database) : Nearing t full t.creations {} :=
  ⟨underway_empty t, .inl rfl⟩

section Trigger

variable (hfull : ({} : Database).applyAll (t.statements .sqlite) = (full, none))
include hfull

/-- Where all creations were applied, only the trigger can be missing. -/
theorem Underway.eq_full (h : Underway t [] db) : full = { db with triggers := full.triggers } := by
  obtain ⟨made, tbl, hmade, -, rfl⟩ := completed hfull
  obtain ⟨done, stage, hdone, hstage, htables, hindexes⟩ := h
  rw [List.append_nil] at hdone
  rw [← hdone, hmade] at hstage
  cases hstage
  rw [htables, hindexes]

theorem Nearing.dropTrigger (h : Nearing t full rest db) :
    db.dropTrigger (denoted t.trigger) = { db with triggers := [] } := by
  obtain ⟨made, tbl, -, -, rfl⟩ := completed hfull
  rcases h.triggers with hnone | hsome
  · simp [Database.dropTrigger, hnone]
  · simp [Database.dropTrigger, hsome]

/-- The table is there then, and the one trigger is for it. -/
theorem Underway.table_there (h : Underway t [] db) :
    ∃ tbl, db.table? (denoted t.name) = some tbl ∧
      full.triggers = [⟨denoted t.trigger, tbl.name⟩] := by
  have heq := h.eq_full hfull
  obtain ⟨made, tbl, -, htbl, rfl⟩ := completed hfull
  refine ⟨tbl, ?_, rfl⟩
  rw [← htbl, table?, table?, congrArg Database.tables heq]

theorem Underway.createTrigger (h : Underway t [] db) (hnone : db.triggers = []) :
    db.apply (.createTrigger t.name t.trigger) = .ok full := by
  obtain ⟨tbl, htbl, htriggers⟩ := h.table_there hfull
  simp only [apply, Database.createTrigger, htbl, hnone]
  rw [if_neg (by simp), h.eq_full hfull, htriggers]
  rfl

theorem Underway.createTrigger_clash (h : Underway t [] db) (hsome : db.triggers = full.triggers) :
    db.apply (.createTrigger t.name t.trigger) = .error t.clash := by
  obtain ⟨tbl, htbl, htriggers⟩ := h.table_there hfull
  simp only [apply, Database.createTrigger, htbl, hsome, htriggers]
  exact if_pos (by simp)

/-! ## Applying the statements from the first on -/

theorem Nearing.creations (h : Nearing t full rest db) :
    ∃ made, db.applyAll t.creations = (made, none) ∧ Nearing t full [] made := by
  obtain ⟨made, rest', hmade, htriggers, hunderway, hrest'⟩ :=
    h.underway.take hfull (List.suffix_refl _) h.underway.suffix t.creations.length
  rw [List.take_length] at hmade
  rw [List.drop_length, List.suffix_nil] at hrest'
  subst hrest'
  exact ⟨made, hmade, hunderway, htriggers ▸ h.triggers⟩

/-- All statements lead to what a single application makes. -/
theorem Nearing.applyAll (h : Nearing t full rest db) :
    db.applyAll (t.statements .sqlite) = (full, none) := by
  obtain ⟨made, hmade, hnear⟩ := h.creations hfull
  have hdropped : made.apply (.dropTrigger t.name t.trigger) = .ok { made with triggers := [] } :=
    congrArg Except.ok (hnear.dropTrigger hfull)
  have hcreated := (hnear.underway.withTriggers []).createTrigger hfull rfl
  rw [t.statements_eq]
  refine applyAll_append.mpr ⟨made, hmade, ?_⟩
  exact applyAll_cons.mpr ⟨_, hdropped, applyAll_cons.mpr ⟨full, hcreated, rfl⟩⟩

/-- What a single application makes is the last stage. -/
theorem nearing_full : Nearing t full [] full := by
  obtain ⟨made, hmade, hnear⟩ := (nearing_empty t full).creations hfull
  refine ⟨?_, .inr rfl⟩
  rw [hnear.underway.eq_full hfull]
  exact hnear.underway.withTriggers _

/-- Any first part of the statements is applied without a fault and leaves a stage. -/
theorem Nearing.take (h : Nearing t full rest db) (k : ℕ) :
    ∃ after rest', db.applyAll ((t.statements .sqlite).take k) = (after, none) ∧
      Nearing t full rest' after := by
  have hlength : (t.statements .sqlite).length = t.creations.length + 2 := by
    simp [t.statements_eq, TableSchema.renewals]
  rcases Nat.lt_trichotomy k (t.creations.length + 1) with hk | rfl | hk
  · obtain ⟨made, rest', hmade, htriggers, hunderway, -⟩ :=
      h.underway.take hfull (List.suffix_refl _) h.underway.suffix k
    rw [t.statements_eq, List.take_append_of_le_length (by omega)]
    exact ⟨made, rest', hmade, hunderway, htriggers ▸ h.triggers⟩
  · -- the trigger was dropped and not made again
    obtain ⟨made, hmade, hnear⟩ := h.creations hfull
    have hdropped : made.apply (.dropTrigger t.name t.trigger) = .ok { made with triggers := [] } :=
      congrArg Except.ok (hnear.dropTrigger hfull)
    refine ⟨{ made with triggers := [] }, [], ?_, hnear.underway.withTriggers _, .inl rfl⟩
    rw [t.statements_eq, List.take_length_add_append]
    exact applyAll_append.mpr ⟨made, hmade, applyAll_cons.mpr ⟨_, hdropped, rfl⟩⟩
  · rw [List.take_of_length_le (by omega)]
    exact ⟨full, [], h.applyAll hfull, nearing_full hfull⟩

end Trigger

end Stages

end Database

end EntityStore
