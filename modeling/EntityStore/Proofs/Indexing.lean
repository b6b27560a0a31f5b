import EntityStore.Proofs.Applying
import EntityStore.Proofs.Realized
import EntityStore.Proofs.Sessions

/-! # The indexes of several entities

The names of indexes are shared by all tables of a database, and a statement that finds its name taken
does nothing. So every index that entities ask for is there exactly if they ask for different names.
-/
namespace EntityStore

open Database

/-! ## Indexes that are asked for -/

/-- The indexes that a table asks for, as a database keeps them. -/
def TableSchema.requested (t : TableSchema) : List Index :=
  t.indexes.map fun i => ⟨denoted i.name, t.denotedName, some (denoted i.column)⟩

theorem TableSchema.mem_requested {t : TableSchema} {i : Index} :
    i ∈ t.requested ↔ ∃ key ∈ t.indexes,
      i = ⟨denoted key.name, t.denotedName, some (denoted key.column)⟩ := by
  simp only [requested, List.mem_map, eq_comm]

/-- What is asked of a list of tables: no two have one name, and every index is over a column. -/
structure Orderly (asked : List TableSchema) : Prop where
  names : ∀ t ∈ asked, ∀ u ∈ asked, sameName t.denotedName u.denotedName = true → t = u
  columns : ∀ t ∈ asked, ∀ i ∈ t.indexes, ∃ c ∈ t.columns, c.name = i.column

namespace Database

/-- A database holds tables and indexes that were asked for, and no two indexes of one name. -/
structure Furnished (asked : List TableSchema) (db : Database) : Prop where
  tables : ∀ tbl ∈ db.tables, ∃ t ∈ asked, t.Distinct ∧ tbl.schema = t.made
  indexes : ∀ i ∈ db.indexes, ∃ t ∈ asked, t.Distinct ∧ i ∈ t.requested
  apart : db.indexes.Pairwise fun i j => sameName i.name j.name = false

theorem furnished_empty (asked : List TableSchema) : Furnished asked {} := ⟨by simp, by simp, .nil⟩

section Step

variable {asked : List TableSchema} {t : TableSchema} {db after : Database}

theorem Furnished.createTable (h : Furnished asked db) (ht : t ∈ asked)
    (ha : db.createTable t = .ok after) : Furnished asked after := by
  have hdistinct := (createTable_ok ha).1
  simp only [Database.createTable] at ha
  split at ha
  · cases ha
  · split at ha
    · cases ha
      exact h
    · rename_i hnone
      cases ha
      refine ⟨fun tbl htbl => ?_, h.indexes, h.apart⟩
      rcases List.mem_append.mp htbl with htbl | htbl
      · exact h.tables tbl htbl
      · rw [List.mem_singleton.mp htbl]
        refine ⟨t, ht, ?_, rfl⟩
        rcases hdistinct with hsame | ⟨-, hd, -⟩
        · have hfresh : db.table? t.denotedName = none := Option.not_isSome_iff_eq_none.mp hnone
          rw [hfresh] at hsame
          simp only [table?, List.find?_eq_none] at hsame
          have hself := hsame ⟨t.rename denoted, []⟩ (by simp)
          exact absurd (sameName_refl t.denotedName) hself
        · exact hd

/-- The table that is found by a name is the one that is asked for by it. -/
theorem Furnished.own (ho : Orderly asked) (h : Furnished asked db) (ht : t ∈ asked) {tbl : Table}
    (htbl : db.table? t.denotedName = some tbl) : t.Distinct ∧ tbl.schema = t.made := by
  obtain ⟨u, hu, hd, hschema⟩ := h.tables tbl (List.mem_of_find?_eq_some htbl)
  have hname := List.find?_some htbl
  simp only [Table.name, hschema] at hname
  have hself : u = t := ho.names u hu t ht hname
  exact hself ▸ ⟨hd, hschema⟩

/-- A column is found by its name where it was made. -/
theorem find?_made (hd : t.Distinct) {c : Column} (hc : c ∈ t.columns) :
    (t.made.columns.find? fun d => sameName d.name (denoted c.name)) =
      some { c with name := denoted c.name } := by
  have hthere : ({ c with name := denoted c.name } : Column) ∈ t.made.columns :=
    List.mem_map_of_mem hc
  obtain ⟨found, hfound⟩ := Option.isSome_iff_exists.mp
    (List.find?_isSome (p := fun d : Column => sameName d.name (denoted c.name)).mpr
      ⟨_, hthere, sameName_refl _⟩)
  obtain ⟨c', hc', rfl⟩ := List.mem_map.mp (List.mem_of_find?_eq_some hfound)
  have hsame := List.find?_some hfound
  rw [hfound, hd.eq_of_sameName hc' hc hsame]

theorem Furnished.add (h : Furnished asked db) (ht : t ∈ asked) (hd : t.Distinct) {i : Index}
    (hi : i ∈ t.requested) (hfree : db.index? i.name = none) :
    Furnished asked { db with indexes := db.indexes ++ [i] } := by
  refine ⟨h.tables, fun j hj => ?_, ?_⟩
  · rcases List.mem_append.mp hj with hj | hj
    · exact h.indexes j hj
    · rw [List.mem_singleton.mp hj]
      exact ⟨t, ht, hd, hi⟩
  · refine List.pairwise_append.mpr ⟨h.apart, List.pairwise_singleton _ _, ?_⟩
    intro j hj k hk
    rw [List.mem_singleton.mp hk, Bool.eq_false_iff]
    exact List.find?_eq_none.mp hfree j hj

/-- An index is made as it was asked for, or passed over. -/
theorem Furnished.createIndex (ho : Orderly asked) (h : Furnished asked db) (ht : t ∈ asked)
    {key : ColumnKey} (hkey : key ∈ t.indexes)
    (ha : db.createIndex t.denotedName (denoted key.name) (denoted key.column) = .ok after) :
    Furnished asked after := by
  simp only [Database.createIndex] at ha
  split at ha
  · cases ha
  · rename_i tbl htbl
    split at ha
    · cases ha
    · split at ha
      · cases ha
        exact h
      · rename_i hfree
        obtain ⟨hd, hschema⟩ := h.own ho ht htbl
        obtain ⟨c, hc, hcolumn⟩ := ho.columns t ht key hkey
        have hname : tbl.name = t.denotedName := congrArg TableSchema.name hschema
        have hcolumns : tbl.columns = t.made.columns := congrArg TableSchema.columns hschema
        rw [hcolumns, ← hcolumn, find?_made hd hc, hname] at ha
        cases ha
        refine h.add ht hd ?_ (Option.not_isSome_iff_eq_none.mp hfree)
        exact TableSchema.mem_requested.mpr ⟨key, hkey, by rw [hcolumn]⟩

/-- What one statement of a table that is asked for preserves. -/
theorem Furnished.apply (ho : Orderly asked) (h : Furnished asked db) (ht : t ∈ asked)
    {statement : Statement} (hs : statement ∈ t.statements .sqlite)
    (ha : db.apply statement = .ok after) : Furnished asked after ∧ db.indexes ⊆ after.indexes := by
  rw [t.statements_eq, List.mem_append] at hs
  rcases hs with hs | hs
  · refine ⟨?_, (indexes_apply (t.creates_of_mem hs) ha).1⟩
    rcases List.mem_cons.mp hs with rfl | hs
    · exact h.createTable ht ha
    · obtain ⟨key, hkey, rfl⟩ := List.mem_map.mp hs
      exact h.createIndex ho ht hkey ha
  · have hsame : after.tables = db.tables ∧ after.indexes = db.indexes := by
      rcases List.mem_pair.mp hs with rfl | rfl
      · cases ha
        exact ⟨rfl, rfl⟩
      · simp only [Database.apply, Database.createTrigger] at ha
        split at ha
        · cases ha
        · split at ha <;> cases ha
          exact ⟨rfl, rfl⟩
    refine ⟨⟨?_, ?_, ?_⟩, hsame.2 ▸ List.Subset.refl _⟩
    · rw [hsame.1]
      exact h.tables
    · rw [hsame.2]
      exact h.indexes
    · rw [hsame.2]
      exact h.apart

/-- What any statements of tables that are asked for preserve, also if they end with a fault. -/
theorem Furnished.applyAll (ho : Orderly asked) (h : Furnished asked db) {statements : List Statement}
    (hs : ∀ statement ∈ statements, ∃ t ∈ asked, statement ∈ t.statements .sqlite) :
    Furnished asked (db.applyAll statements).1 ∧ db.indexes ⊆ (db.applyAll statements).1.indexes := by
  induction statements generalizing db with
  | nil => exact ⟨h, List.Subset.refl _⟩
  | cons statement rest ih =>
    rw [Database.applyAll]
    cases ha : db.apply statement with
    | error fault => exact ⟨h, List.Subset.refl _⟩
    | ok mid =>
      obtain ⟨t, ht, hmem⟩ := hs statement (List.mem_cons_self ..)
      obtain ⟨hmid, hsub⟩ := h.apply ho ht hmem ha
      obtain ⟨hafter, hsub'⟩ := ih hmid fun st hst => hs st (List.mem_cons_of_mem _ hst)
      exact ⟨hafter, List.Subset.trans hsub hsub'⟩

/-- After all statements of a table, the names of its indexes are taken. -/
theorem Furnished.taken (ho : Orderly asked) (h : Furnished asked db) (ht : t ∈ asked)
    (ha : db.applyAll (t.statements .sqlite) = (after, none)) :
    ∀ i ∈ t.requested, (after.index? i.name).isSome = true := by
  intro i hi
  obtain ⟨key, hkey, rfl⟩ := TableSchema.mem_requested.mp hi
  have hmem : Statement.createIndex t.name key ∈ t.statements .sqlite := by
    rw [t.statements_eq]
    exact List.mem_append_left _ (List.mem_cons_of_mem _ (List.mem_map_of_mem hkey))
  have hall : ∀ statement ∈ t.statements .sqlite, ∃ u ∈ asked, statement ∈ u.statements .sqlite :=
    fun statement hs => ⟨t, ht, hs⟩
  obtain ⟨before, rest, hsplit⟩ := List.append_of_mem hmem
  rw [hsplit] at ha hall
  obtain ⟨mid, hbefore, hrest⟩ := applyAll_append.mp ha
  obtain ⟨made, hmade, hend⟩ := applyAll_cons.mp hrest
  have hmid := (h.applyAll ho fun st hst => hall st (List.mem_append_left _ hst)).1
  rw [hbefore] at hmid
  have hthere := (createIndex_ok hmade).2.2.2.2.2
  have hfurnished := (hmid.apply ho ht hmem hmade).1
  have hsub := (hfurnished.applyAll ho fun st hst =>
    hall st (List.mem_append_right _ (List.mem_cons_of_mem _ hst))).2
  rw [hend] at hsub
  obtain ⟨j, hj, hname⟩ := index?_isSome_iff.mp hthere
  exact index?_isSome_iff.mpr ⟨j, hsub hj, hname⟩

end Step

end Database

namespace Store

open EntityStore.Action

/-- Ensures the tables of entities one after another, up to the first failure. -/
def ensureAll (entities : List Registered) : Action (List TableSchema) := entities.mapM ensure

theorem ensureAll_cons (e : Registered) (rest : List Registered) : ensureAll (e :: rest) = (do
    let t ← ensure e
    let ts ← ensureAll rest
    return t :: ts) := List.mapM_cons

/-- What a store comes to when the tables of some entities were ensured in it. -/
structure Supplied (asked : List TableSchema) (done : List Registered) (s : Store) : Prop where
  database : ∃ db, s.database? = some db ∧ Furnished asked db ∧
    ∀ e ∈ done, ∀ i ∈ e.schema.requested, (db.index? i.name).isSome = true
  marked : ∀ place ∈ s.applied, ∃ e ∈ done, e.place = place

variable {asked : List TableSchema} {done entities : List Registered} {reg : Registry}
  {s s' : Store} {e : Registered}

theorem Supplied.step (ho : Orderly asked) (h : Supplied asked done s) (hreg : ∀ x ∈ done, reg.Holds x)
    (hheld : reg.Holds e) (he : e.schema ∈ asked) {t : TableSchema}
    (hok : (ensure e).on s = (.ok t, s')) : Supplied asked (done ++ [e]) s' := by
  obtain ⟨db, hdb, hfurnished, htaken⟩ := h.database
  cases hs : s.isApplied e with
  | true =>
    rw [ensure_known hs] at hok
    cases hok
    obtain ⟨x, hx, hplace⟩ := h.marked e.place (by simpa [isApplied] using hs)
    have hschema : x.schema = e.schema :=
      congrArg TableSchema.ofDescriptor ((hreg x hx).descriptor_eq hheld hplace)
    refine ⟨⟨db, hdb, hfurnished, ?_⟩, fun place hp => ?_⟩
    · intro y hy i hi
      rcases List.mem_append.mp hy with hy | hy
      · exact htaken y hy i hi
      · rw [List.mem_singleton.mp hy, ← hschema] at hi
        exact htaken x hx i hi
    · obtain ⟨y, hy, rfl⟩ := h.marked place hp
      exact ⟨y, List.mem_append_left _ hy, rfl⟩
  | false =>
    obtain ⟨-, mid, after, hmid, happlied, hafter, hmarked⟩ :=
      (ensure_reached hdb hs hok).applied hdb
    have hall : ∀ st ∈ e.schema.statements .sqlite, ∃ u ∈ asked, st ∈ u.statements .sqlite :=
      fun st hst => ⟨e.schema, he, hst⟩
    obtain ⟨hstart, hfirst⟩ : Furnished asked mid ∧ db.indexes ⊆ mid.indexes := by
      rcases hmid with rfl | rfl
      · exact ⟨hfurnished, List.Subset.refl _⟩
      · exact hfurnished.applyAll ho hall
    have hend := hstart.applyAll ho hall
    rw [happlied] at hend
    obtain ⟨hfurnished', hsecond⟩ := hend
    refine ⟨⟨after, hafter, hfurnished', ?_⟩, fun place hp => ?_⟩
    · intro y hy i hi
      rcases List.mem_append.mp hy with hy | hy
      · obtain ⟨j, hj, hname⟩ := index?_isSome_iff.mp (htaken y hy i hi)
        exact index?_isSome_iff.mpr ⟨j, hsecond (hfirst hj), hname⟩
      · rw [List.mem_singleton.mp hy] at hi
        exact hstart.taken ho he happlied i hi
    · rw [hmarked, List.mem_cons] at hp
      rcases hp with rfl | hp
      · exact ⟨e, by simp, rfl⟩
      · obtain ⟨y, hy, rfl⟩ := h.marked place hp
        exact ⟨y, List.mem_append_left _ hy, rfl⟩

theorem Supplied.ensureAll (ho : Orderly asked) (h : Supplied asked done s)
    (hreg : ∀ x ∈ done ++ entities, reg.Holds x) (he : ∀ x ∈ entities, x.schema ∈ asked)
    {ts : List TableSchema} (hok : (Store.ensureAll entities).on s = (.ok ts, s')) :
    Supplied asked (done ++ entities) s' := by
  induction entities generalizing done s ts with
  | nil =>
    cases hok
    simpa using h
  | cons first rest ih =>
    rw [ensureAll_cons] at hok
    rcases hfirst : (ensure first).on s with ⟨_ | t, mid⟩
    · rw [on_bind_error hfirst] at hok
      cases hok
    · rw [on_bind_ok hfirst] at hok
      have hmid := h.step ho (fun x hx => hreg x (List.mem_append_left _ hx))
        (hreg first (by simp)) (he first (by simp)) hfirst
      rcases hrest : (Store.ensureAll rest).on mid with ⟨_ | us, last⟩
      · rw [on_bind_error hrest] at hok
        cases hok
      · rw [on_bind_ok hrest] at hok
        cases hok
        have hend := ih hmid (by simpa using hreg)
          (fun x hx => he x (List.mem_cons_of_mem _ hx)) hrest
        simpa using hend

/-- Every field of an entity that asks for an index has one, in the entity's own table. -/
def Serves (s : Store) (e : Registered) : Prop :=
  ∀ f ∈ e.descriptor.fields, f.storage.index = true → ∃ db i column, s.database? = some db ∧
    i ∈ db.indexes ∧ sameName i.table e.schema.denotedName = true ∧ i.column = some column ∧
    sameName column (denoted f.name) = true

section Served

variable {t : TableSchema} {d : Descriptor} {i : Index}

/-- Fields and the indexes that they ask for. -/
theorem mem_requested_schema : i ∈ (TableSchema.ofDescriptor d).requested ↔
    ∃ f ∈ d.fields, f.storage.index = true ∧ i = ⟨denoted (indexName d.name f.name),
      denoted d.name, some (denoted f.name)⟩ := by
  rw [TableSchema.mem_requested]
  simp [TableSchema.ofDescriptor, TableSchema.denotedName, and_assoc]

/-- Columns that differ have indexes of their own. -/
theorem requested_eq (hd : (TableSchema.ofDescriptor d).Distinct) {f g : Field} (hf : f ∈ d.fields)
    (hg : g ∈ d.fields) (h : sameName (denoted f.name) (denoted g.name) = true) :
    f.name = g.name := by
  have hcolumn : ∀ f ∈ d.fields, f.column ∈ (TableSchema.ofDescriptor d).columns :=
    fun f hf => List.mem_append_right _ (List.mem_map_of_mem hf)
  have heq := hd.eq_of_sameName (hcolumn f hf) (hcolumn g hg) h
  exact congrArg Column.name heq

end Served

/-- Entities of different names ask for their tables in an orderly way. -/
theorem orderly_of_names (hnames : ∀ e ∈ entities, ∀ x ∈ entities,
    sameName e.schema.denotedName x.schema.denotedName = true → e.descriptor = x.descriptor) :
    Orderly (entities.map Registered.schema) := by
  constructor
  · intro t ht u hu hsame
    obtain ⟨e, he, rfl⟩ := List.mem_map.mp ht
    obtain ⟨x, hx, rfl⟩ := List.mem_map.mp hu
    exact congrArg TableSchema.ofDescriptor (hnames e he x hx hsame)
  · intro t ht
    obtain ⟨e, he, rfl⟩ := List.mem_map.mp ht
    exact Descriptor.indexed_columns e.descriptor

/-- A column has an index exactly if the one that is asked for it is there. -/
theorem serves_iff {db : Database} (hdb : s.database? = some db)
    (h : Furnished (entities.map Registered.schema) db)
    (hnames : ∀ x ∈ entities, sameName x.schema.denotedName e.schema.denotedName = true →
      x.descriptor = e.descriptor) :
    Serves s e ↔ ∀ i ∈ e.schema.requested, i ∈ db.indexes := by
  constructor
  · intro hserves i hi
    obtain ⟨f, hf, hindexed, rfl⟩ := mem_requested_schema.mp hi
    obtain ⟨db', j, column, hdb', hj, htable, hcolumn, hsame⟩ := hserves f hf hindexed
    rw [hdb] at hdb'
    cases hdb'
    obtain ⟨t, ht, hd, hasked⟩ := h.indexes j hj
    obtain ⟨x, hx, rfl⟩ := List.mem_map.mp ht
    obtain ⟨g, hg, -, rfl⟩ := mem_requested_schema.mp hasked
    have hown : x.descriptor = e.descriptor := hnames x hx htable
    cases hcolumn
    rw [Registered.schema, hown] at hd
    rw [hown] at hg hj
    rwa [requested_eq hd hg hf hsame] at hj
  · intro hthere f hf hindexed
    have hmem := hthere _ (mem_requested_schema.mpr ⟨f, hf, hindexed, rfl⟩)
    exact ⟨db, _, _, hdb, hmem, sameName_refl _, rfl, sameName_refl _⟩

/-- In an empty database in which the tables of some entities were ensured, of which no two have one
name, every field that asks for an index has one exactly if no two indexes are asked for by one name. -/
theorem indexes_served {ts : List TableSchema} (hempty : s.database? = some {})
    (hunmarked : s.applied = []) (hreg : ∀ e ∈ entities, reg.Holds e)
    (hnames : ∀ e ∈ entities, ∀ x ∈ entities,
      sameName e.schema.denotedName x.schema.denotedName = true → e.descriptor = x.descriptor)
    (hok : (ensureAll entities).on s = (.ok ts, s')) :
    (∀ e ∈ entities, Serves s' e) ↔ ∀ e ∈ entities, ∀ x ∈ entities, ∀ i ∈ e.schema.requested,
      ∀ j ∈ x.schema.requested, sameName i.name j.name = true → i = j := by
  have ho := orderly_of_names hnames
  have hstart : Supplied (entities.map Registered.schema) [] s :=
    ⟨⟨{}, hempty, furnished_empty _, by simp⟩, by simp [hunmarked]⟩
  have hend : Supplied (entities.map Registered.schema) ([] ++ entities) s' :=
    hstart.ensureAll ho (by simpa using hreg) (fun x hx => List.mem_map_of_mem hx) hok
  obtain ⟨⟨db, hdb, hfurnished, htaken⟩, -⟩ := hend
  rw [List.nil_append] at htaken
  have hserves : ∀ e ∈ entities, Serves s' e ↔ ∀ i ∈ e.schema.requested, i ∈ db.indexes :=
    fun e he => serves_iff hdb hfurnished fun x hx => hnames x hx e he
  constructor
  · intro h e he x hx i hi j hj hsame
    have hi := (hserves e he).mp (h e he) i hi
    have hj := (hserves x hx).mp (h x hx) j hj
    exact eq_of_sameName hfurnished.apart hi hj hsame
  · intro h e he
    refine (hserves e he).mpr fun i hi => ?_
    -- the name is taken, and no other index that is asked for has it
    obtain ⟨j, hj, hname⟩ := index?_isSome_iff.mp (htaken e he i hi)
    obtain ⟨t, ht, -, hasked⟩ := hfurnished.indexes j hj
    obtain ⟨x, hx, rfl⟩ := List.mem_map.mp ht
    rwa [h x hx e he j hasked i hi hname] at hj

/-- An entity with an index over one field. -/
def shelf : Registered :=
  ⟨0, { name := "a", fields := [{ name := "b_c", kind := .shortText, storage := { index := true } }] }⟩

/-- Another entity, with an index of another name. -/
def board : Registered :=
  ⟨1, { name := "a_b", fields := [{ name := "d", kind := .shortText, storage := { index := true } }] }⟩

/-- Another entity, whose index has the name of that of the first one. -/
def shadow : Registered :=
  ⟨1, { name := "a_b", fields := [{ name := "c", kind := .shortText, storage := { index := true } }] }⟩

theorem shelf_served : ∃ s', (∃ ts, (ensureAll [shelf, board]).on inMemory = (.ok ts, s')) ∧
    (∀ e ∈ [shelf, board], Registry.Holds ⟨[shelf.descriptor, board.descriptor]⟩ e) ∧
    ∀ e ∈ [shelf, board], Serves s' e := by
  have hreg : ∀ e ∈ [shelf, board], Registry.Holds ⟨[shelf.descriptor, board.descriptor]⟩ e := by
    simp [Registry.Holds, shelf, board]
  have hisOk : ((ensureAll [shelf, board]).on inMemory).1.isOk = true := by decide +kernel
  obtain ⟨ts, s', hok⟩ := exists_of_isOk hisOk
  have hnames : ∀ e ∈ [shelf, board], ∀ x ∈ [shelf, board],
      sameName e.schema.denotedName x.schema.denotedName = true → e.descriptor = x.descriptor := by
    intro e he x hx hsame
    rcases List.mem_pair.mp he with rfl | rfl <;> rcases List.mem_pair.mp hx with rfl | rfl
    · rfl
    · exact absurd hsame (by decide +kernel)
    · exact absurd hsame (by decide +kernel)
    · rfl
  have hdistinct : ∀ e ∈ [shelf, board], ∀ x ∈ [shelf, board], ∀ i ∈ e.schema.requested,
      ∀ j ∈ x.schema.requested, sameName i.name j.name = true → i = j := by
    decide +kernel
  exact ⟨s', ⟨ts, hok⟩, hreg,
    (indexes_served (by decide +kernel) rfl hreg hnames hok).mpr hdistinct⟩

/-- Two accepted entities of different names, whose tables are ensured, and one lacks its index. -/
theorem shadow_unserved : shelf.descriptor.Accepted ∧ shadow.descriptor.Accepted ∧
    sameName shelf.descriptor.name shadow.descriptor.name = false ∧
    inMemory.database? = some {} ∧ inMemory.applied = [] ∧
    ((ensureAll [shelf, shadow]).on inMemory).1.isOk = true ∧
    ¬ Serves ((ensureAll [shelf, shadow]).on inMemory).2 shadow := by
  have hindexes : (((ensureAll [shelf, shadow]).on inMemory).2.database?.map (·.indexes)) =
      some [⟨"idx_a_b_c", "a", some "b_c"⟩] := by decide +kernel
  refine ⟨?_, ?_, by decide +kernel, by decide +kernel, rfl, by decide +kernel, ?_⟩
  · unfold Descriptor.Accepted
    rfl
  · unfold Descriptor.Accepted
    rfl
  · intro h
    obtain ⟨db, i, column, hdb, hi, htable, -⟩ := h _ (List.mem_singleton_self _) rfl
    rw [hdb] at hindexes
    rw [Option.map_some, Option.some_inj] at hindexes
    rw [hindexes, List.mem_singleton] at hi
    rw [hi] at htable
    exact absurd htable (by decide +kernel)

end Store

end EntityStore
